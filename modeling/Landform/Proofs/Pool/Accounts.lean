import Landform.Proofs.Pool.Custody

/-! # The books of a pool

The number of tasks in flight is raised before a task is queued and lowered after its result was
delivered, and the tally goes up in between. What the counters say at any moment follows from where
the queue, the workers and the call in progress are. -/

namespace Landform

/-! ## Workers and calls in the books -/

/-- Whether a worker has taken a task that still counts as in flight. -/
def Phase.isBusy {β : Type} : Phase β → Bool
  | idle => false
  | _ => true

/-- The task of a worker that is not in the tally yet. -/
def Phase.uncounted? {β : Type} : Phase β → Option Task
  | taken task | running task => some task
  | finished result => some result.task
  | _ => none

theorem Phase.isBusy_of_uncounted {β : Type} {a : Phase β} (h : a.uncounted?.isSome = true) :
    a.isBusy = true := by
  cases a with
  | idle => cases h
  | _ => rfl

/-- How many outcomes are counted. -/
def Tally.total (t : Tally) : Nat := t.generated + t.failed + t.cancelled

/-- An outcome is counted once, as cancelled if that is what it says and otherwise not. -/
theorem Tally.count_cases {β : Type} (t : Tally) (outcome : Except RequestError β) :
    (outcome = .error .cancelled ∧ (t.count outcome).cancelled = t.cancelled + 1 ∧
      (t.count outcome).generated + (t.count outcome).failed = t.generated + t.failed) ∨
    ((t.count outcome).cancelled = t.cancelled ∧
      (t.count outcome).generated + (t.count outcome).failed = t.generated + t.failed + 1) := by
  cases outcome with
  | ok value => exact .inr ⟨rfl, Nat.add_right_comm ..⟩
  | error e =>
    cases e with
    | cancelled => exact .inl ⟨rfl, rfl, rfl⟩
    | _ => exact .inr ⟨rfl, rfl⟩

namespace Pool

variable {β : Type}

/-- The number of tasks in flight that are neither queued nor with a worker: a submission counts
its task before it offers it to the queue. It is zero between calls. -/
def Call.entering : Call β → Nat
  | entered _ | refused _ => 1
  | _ => 0

/-- A turn of a worker keeps the number of tasks in flight in step. -/
theorem Turn.inFlight {make : Maker β} {p q : Pool β} {before after : List (Phase β)}
    {a b : Phase β} (hworkers : p.workers = before ++ a :: after) (h : Turn make p a b q) {n : Nat}
    (hp : p.inFlight = p.queue.length + p.workers.countP Phase.isBusy + n) :
    q.inFlight = q.queue.length + (before ++ b :: after).countP Phase.isBusy + n := by
  rw [hworkers, List.countP_append, List.countP_cons] at hp
  rw [List.countP_append, List.countP_cons]
  cases h with
  | take h =>
    rw [h, List.length_cons] at hp
    simp only [Phase.isBusy, Bool.false_eq_true, if_true, if_false] at hp ⊢
    omega
  | leave =>
    -- The worker itself is busy, so the number is not zero yet.
    simp only [Pool.leave, Phase.isBusy, Bool.false_eq_true, if_true, if_false] at hp ⊢
    omega
  | _ => exact hp

/-- A turn of a worker leaves the tally alone, or counts the result that the worker has finished. -/
theorem Turn.uncounted {make : Maker β} {p q : Pool β} {before after : List (Phase β)}
    {a b : Phase β} (hworkers : p.workers = before ++ a :: after) (h : Turn make p a b q) :
    (q.tally = p.tally ∧
      (p.queue ++ p.workers.filterMap Phase.uncounted?).Perm
        (q.queue ++ (before ++ b :: after).filterMap Phase.uncounted?)) ∨
    ∃ result, a = .finished result ∧ q.tally = p.tally.count result.outcome ∧
      (p.queue ++ p.workers.filterMap Phase.uncounted?).Perm
        (result.task :: (q.queue ++ (before ++ b :: after).filterMap Phase.uncounted?)) := by
  rw [hworkers]
  simp only [List.filterMap_append, List.perm_iff_count]
  cases h with
  | take h =>
    refine .inl ⟨rfl, fun t => ?_⟩
    simp only [h, Phase.uncounted?, List.filterMap_cons, List.count_append, List.count_cons]
    omega
  | count =>
    refine .inr ⟨_, rfl, rfl, fun t => ?_⟩
    simp only [Phase.uncounted?, List.filterMap_cons, List.count_append, List.count_cons]
    omega
  | _ => exact .inl ⟨rfl, fun t => rfl⟩

namespace Desk

/-! ## Tasks in flight -/

/-- The number of tasks in flight is right. -/
def InFlight (d : Desk β) : Prop :=
  d.pool.inFlight =
    d.pool.queue.length + d.pool.workers.countP Phase.isBusy + d.call.entering

theorem start_inFlight (threads queueCapacity resultCapacity : Nat) :
    (start threads queueCapacity resultCapacity : Desk β).InFlight := by
  have hidle : (List.replicate (max threads 1) (Phase.idle : Phase β)).countP Phase.isBusy = 0 :=
    List.countP_eq_zero.mpr fun a ha => by
      rw [List.eq_of_mem_replicate ha]
      exact Bool.false_ne_true
  unfold InFlight
  simp only [start, create, hidle]
  rfl

theorem Step.inFlight {make : Maker β} {d d' : Desk β} (h : Step make d d') (hd : d.InFlight) :
    d'.InFlight := by
  cases h with
  | worker hworkers hturn => exact hturn.inFlight hworkers hd
  | begin request => cases request <;> exact hd
  | enter =>
    simp only [InFlight, Pool.enter, Call.entering] at hd ⊢
    omega
  | enqueue h =>
    simp only [InFlight, Call.entering, List.length_append, List.length_singleton] at hd ⊢
    omega
  | leave =>
    simp only [InFlight, Pool.leave, Call.entering] at hd ⊢
    omega
  | @release p l all result => cases all <;> exact hd
  | _ => exact hd

/-! ## Counted tasks -/

/-- Every accepted task waits in the queue, is with a worker that has not counted it, or is in the
tally. Those that are counted as cancelled are withdrawn. -/
def Counted (d : Desk β) : Prop :=
  ∃ cancelled ended : List Task,
    d.ledger.accepted.Perm
      (cancelled ++ ended ++ (d.pool.queue ++ d.pool.workers.filterMap Phase.uncounted?)) ∧
    cancelled.length = d.pool.tally.cancelled ∧
    ended.length = d.pool.tally.generated + d.pool.tally.failed ∧
    ∀ task ∈ cancelled, task.ticket ∈ d.pool.withdrawn

theorem start_counted (threads queueCapacity resultCapacity : Nat) :
    (start threads queueCapacity resultCapacity : Desk β).Counted := by
  have hidle : (List.replicate (max threads 1) (Phase.idle : Phase β)).filterMap
      Phase.uncounted? = [] := List.filterMap_replicate_of_none rfl
  refine ⟨[], [], ?_, rfl, rfl, nofun⟩
  simp only [start, create, hidle]
  exact .nil

theorem Step.counted {make : Maker β} {d d' : Desk β} (h : Step make d d') (hd : d.Orderly)
    (hc : d.Counted) : d'.Counted := by
  obtain ⟨cancelled, ended, hperm, hcancelled, hended, hwithdrawn⟩ := hc
  cases h with
  | @worker p q call l before after a b hworkers hturn =>
    have hw := hturn.frame.2.1
    rw [← hw] at hwithdrawn
    rcases hturn.uncounted hworkers with ⟨htally, hmoved⟩ | ⟨result, rfl, htally, hmoved⟩
    · rw [← htally] at hcancelled hended
      exact ⟨cancelled, ended, hperm.trans (hmoved.append_left _), hcancelled, hended, hwithdrawn⟩
    · have hperm := hperm.trans (hmoved.append_left _)
      rcases p.tally.count_cases result.outcome with ⟨hout, hc, hge⟩ | ⟨hc, hge⟩
      · -- The outcome says that the request is withdrawn, and it is right.
        have htrue : (Phase.finished result).Truthful p.withdrawn :=
          hd.truthful _ (by rw [hworkers]; exact List.mem_append_right _ (List.mem_cons_self ..))
        refine ⟨result.task :: cancelled, ended, hperm.trans ?_, ?_, ?_, ?_⟩
        · exact List.perm_middle
        · rw [htally, hc, List.length_cons, hcancelled]
        · rw [htally, hge, hended]
        · rw [hw] at hwithdrawn ⊢
          exact List.forall_mem_cons.mpr ⟨htrue hout, hwithdrawn⟩
      · refine ⟨cancelled, result.task :: ended, hperm.trans ?_, ?_, ?_, hwithdrawn⟩
        · rw [List.perm_iff_count]
          intro t
          simp only [List.count_append, List.count_cons]
          omega
        · rw [htally, hc, hcancelled]
        · rw [htally, hge, List.length_cons, hended]
  | begin request =>
    cases request <;> exact ⟨cancelled, ended, hperm, hcancelled, hended, hwithdrawn⟩
  | enqueue h =>
    refine ⟨cancelled, ended, (hperm.append_right _).trans ?_, hcancelled, hended, hwithdrawn⟩
    rw [List.perm_iff_count]
    intro t
    simp only [List.count_append]
    omega
  | withdraw =>
    refine ⟨cancelled, ended, hperm, hcancelled, hended, ?_⟩
    exact fun task htask => List.mem_cons_of_mem _ (hwithdrawn task htask)
  | @release p l all result =>
    cases all <;> exact ⟨cancelled, ended, hperm, hcancelled, hended, hwithdrawn⟩
  | _ => exact ⟨cancelled, ended, hperm, hcancelled, hended, hwithdrawn⟩

theorem play_counted {make : Maker β} (honest : make.Truthful)
    (threads queueCapacity resultCapacity : Nat) (moves : List Move) :
    ((start threads queueCapacity resultCapacity).play make moves).Counted := by
  refine (play_invariant (motive := fun d => d.Orderly ∧ d.Counted) ?_ ?_ moves).2
  · exact fun hstep hd => ⟨hstep.orderly honest hd.1, hstep.counted hd.1 hd.2⟩
  · exact ⟨start_orderly .., start_counted ..⟩

/-! ## Room -/

/-- The queue and the results have kept to their room, which is still the same. -/
def HasRoom (queueCapacity resultCapacity : Nat) (d : Desk β) : Prop :=
  (d.pool.queueCapacity = queueCapacity ∧ d.pool.queue.length ≤ queueCapacity) ∧
    d.pool.resultCapacity = resultCapacity ∧ d.pool.results.length ≤ resultCapacity

theorem start_hasRoom (threads queueCapacity resultCapacity : Nat) :
    (start threads queueCapacity resultCapacity : Desk β).HasRoom
      (max queueCapacity 1) (max resultCapacity 1) :=
  ⟨⟨rfl, Nat.zero_le _⟩, rfl, Nat.zero_le _⟩

theorem Step.hasRoom {make : Maker β} {d d' : Desk β} (h : Step make d d')
    {queueCapacity resultCapacity : Nat} (hd : d.HasRoom queueCapacity resultCapacity) :
    d'.HasRoom queueCapacity resultCapacity := by
  obtain ⟨⟨rfl, hqueue⟩, rfl, hresults⟩ := hd
  cases h with
  | worker hworkers hturn =>
    cases hturn with
    | take h =>
      rw [h] at hqueue
      exact ⟨⟨rfl, Nat.le_of_succ_le hqueue⟩, rfl, hresults⟩
    | deliver h =>
      refine ⟨⟨rfl, hqueue⟩, rfl, ?_⟩
      rw [List.length_append]
      exact h
    | _ => exact ⟨⟨rfl, hqueue⟩, rfl, hresults⟩
  | enqueue h =>
    refine ⟨⟨rfl, ?_⟩, rfl, hresults⟩
    rw [List.length_append]
    exact h
  | take h =>
    rw [h] at hresults
    exact ⟨⟨rfl, hqueue⟩, rfl, Nat.le_of_succ_le hresults⟩
  | _ => exact ⟨⟨rfl, hqueue⟩, rfl, hresults⟩

/-! ## The books -/

/-- No more tasks are counted as cancelled than were cancelled. -/
theorem Counted.cancelled_le {d : Desk β} (h : d.Sound) (hc : d.Counted) :
    d.pool.tally.cancelled ≤ d.ledger.cancelled.length := by
  obtain ⟨cancelled, ended, hperm, hcancelled, -, hwithdrawn⟩ := hc
  have hnodup : cancelled.Nodup :=
    (hperm.nodup_iff.mp h.orderly.accepted_nodup).of_append_left.of_append_left
  rw [← hcancelled]
  refine (List.subperm_of_subset hnodup fun task htask => ?_).length_le
  have haccepted : task ∈ d.ledger.accepted :=
    hperm.mem_iff.mpr (List.mem_append_left _ (List.mem_append_left _ htask))
  exact (h.mem_withdrawn_iff haccepted).mp (hwithdrawn task htask)

theorem Counted.length_accepted {d : Desk β} (hc : d.Counted) :
    d.ledger.accepted.length =
      d.pool.tally.total + d.pool.queue.length +
        d.pool.workers.countP (·.uncounted?.isSome) := by
  obtain ⟨cancelled, ended, hperm, hcancelled, hended, -⟩ := hc
  have hlength := hperm.length_eq
  simp only [List.length_append, List.length_filterMap_eq_countP, hcancelled, hended] at hlength
  unfold Tally.total
  omega

/-- In every state that a pool of a generator and its caller can reach: the tasks in flight are
those in the queue, those of the workers that have not lowered the number yet, and the one that a
submission in progress has counted; so the number is positive wherever it is lowered; the accepted
requests are those that are counted as generated, failed or cancelled, those in the queue, and
those with a worker that has not counted them; no more are counted as cancelled than were
cancelled; the queue and the results keep to their room; and when nothing is in flight, all accepted
requests are counted. -/
theorem books_balance (g : Generator) (schedule : Schedule)
    (threads queueCapacity resultCapacity : Nat) (moves : List Move) :
    let d : Desk Chunk :=
      (start threads queueCapacity resultCapacity).play (g.maker schedule) moves
    d.pool.inFlight =
      d.pool.queue.length + d.pool.workers.countP Phase.isBusy + d.call.entering ∧
    (.leaving ∈ d.pool.workers → 0 < d.pool.inFlight) ∧
    (∀ task, d.call = .refused task → 0 < d.pool.inFlight) ∧
    d.ledger.accepted.length =
      d.pool.tally.generated + d.pool.tally.failed + d.pool.tally.cancelled +
        d.pool.queue.length + d.pool.workers.countP (·.uncounted?.isSome) ∧
    d.pool.tally.cancelled ≤ d.ledger.cancelled.length ∧
    d.pool.queue.length ≤ max queueCapacity 1 ∧
    d.pool.results.length ≤ max resultCapacity 1 ∧
    (d.pool.inFlight = 0 →
      d.pool.tally.generated + d.pool.tally.failed + d.pool.tally.cancelled =
        d.ledger.accepted.length) := by
  intro d
  have h : d.Sound := play_sound (g.maker_truthful schedule) ..
  have hflight : d.InFlight :=
    play_invariant (fun hstep => hstep.inFlight) (start_inFlight ..) moves
  have hcounted : d.Counted := play_counted (g.maker_truthful schedule) ..
  have hroom : d.HasRoom _ _ := play_invariant (fun hstep => hstep.hasRoom) (start_hasRoom ..) moves
  have hlength := hcounted.length_accepted
  unfold Tally.total at hlength
  refine ⟨hflight, ?_, ?_, hlength, hcounted.cancelled_le h, hroom.1.2, hroom.2.2, ?_⟩
  · intro hleaving
    have hbusy : 0 < d.pool.workers.countP Phase.isBusy :=
      List.countP_pos_iff.mpr ⟨_, hleaving, rfl⟩
    rw [hflight]
    omega
  · intro task hcall
    rw [hflight, hcall]
    exact Nat.succ_pos _
  · intro hzero
    rw [hflight] at hzero
    have hle : d.pool.workers.countP (·.uncounted?.isSome) ≤ d.pool.workers.countP Phase.isBusy :=
      List.countP_mono_left fun a _ => Phase.isBusy_of_uncounted
    omega

/-- At the end of a run with a cancelled request, both requests are counted. -/
theorem resubmission_books :
    let d : Desk Chunk := (start 1 1 1).play (Generator.standard.maker .forward)
      (Move.resubmission ++ Move.completion)
    d.pool.inFlight = 0 ∧
      d.pool.tally.generated + d.pool.tally.failed + d.pool.tally.cancelled = 2 := by
  intro d
  obtain ⟨-, -, -, -, -, -, -, hend⟩ :=
    books_balance Generator.standard .forward 1 1 1 (Move.resubmission ++ Move.completion)
  exact ⟨rfl, hend rfl⟩

end Desk

end Pool

end Landform
