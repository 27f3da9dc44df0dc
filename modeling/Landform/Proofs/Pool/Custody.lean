import Landform.Proofs.Pool.Tickets
import Mathlib.Data.List.Perm.Basic

/-! # Where the requests are

An accepted request is in one place at a time: in the queue, with a worker, among the results, with
the caller who has taken its result off, or with the caller for good. Only the results of requests
that are withdrawn get lost. And it is in one state at a time: registered, in the middle of a
cancellation, cancelled, or received. The two divisions of the accepted requests hold throughout
every run, and together they say how the register, the queues and the workers go together. -/

namespace Landform

/-! ## Places -/

/-- The task of a worker whose result is not among the results. -/
def Phase.task? {β : Type} : Phase β → Option Task
  | idle | leaving => none
  | taken task | running task => some task
  | finished result | counted result | delivering result => some result.task

namespace Pool

variable {β : Type}

/-- The requests in the queue, with a worker that has not put the result among the results, and
among the results. -/
def underWay (p : Pool β) : List Task :=
  p.queue ++ p.workers.filterMap Phase.task? ++ p.results.map (·.task)

/-- The request of a cancellation that is not registered any more and not withdrawn yet. -/
def Call.revoked : Call β → List Task
  | unregistered task => [task]
  | _ => []

/-- The request whose result the caller has taken off and not received yet. -/
def Call.held : Call β → List Task
  | taken _ result | claimed _ result => [result.task]
  | _ => []

/-- The request that the call in progress is about, once it is known. There is none between
calls. -/
def Call.task? : Call β → Option Task
  | registered task | entered task | refused task | left task | unregistered task => some task
  | taken _ result | claimed _ result => some result.task
  | _ => none

theorem Call.task?_of_mem {call : Call β} {task : Task}
    (h : task ∈ call.offered ++ call.revoked ++ call.held) : call.task? = some task := by
  cases call with
  | ready => cases h
  | submitting key => cases h
  | cancelling key => cases h
  | receiving all => cases h
  | _ => exact congrArg some (List.mem_singleton.mp h).symm

/-- A turn of a worker moves its request on, or loses it if nobody gets the result. -/
theorem Turn.underWay {make : Maker β} {p q : Pool β} {before after : List (Phase β)}
    {a b : Phase β} (hworkers : p.workers = before ++ a :: after) (h : Turn make p a b q) :
    p.underWay.Perm { q with workers := before ++ b :: after }.underWay ∨
    ∃ result, a = .counted result ∧ p.isDeliverable result = false ∧
      p.underWay.Perm ({ q with workers := before ++ b :: after }.underWay ++ [result.task]) := by
  unfold Pool.underWay
  rw [hworkers]
  simp only [List.filterMap_append, List.perm_iff_count]
  cases h with
  | take h =>
    refine .inl fun t => ?_
    simp only [h, Phase.task?, List.filterMap_cons, List.count_append, List.count_cons]
    omega
  | discard h =>
    refine .inr ⟨_, rfl, h, fun t => ?_⟩
    simp only [Phase.task?, List.filterMap_cons, List.count_append, List.count_cons,
      List.count_nil]
    omega
  | deliver h =>
    refine .inl fun t => ?_
    simp only [Phase.task?, List.filterMap_cons, List.map_append, List.map_cons, List.map_nil,
      List.count_append, List.count_cons, List.count_nil]
    omega
  -- In the other turns the worker keeps its task, or has none before and after.
  | _ => exact .inl fun t => rfl

namespace Desk

/-! ## The two divisions -/

/-- Every accepted request is in one place, apart from lost ones, which are withdrawn. -/
def Traced (d : Desk β) : Prop :=
  ∃ lost : List Task,
    d.ledger.accepted.Perm
      (d.pool.underWay ++ d.call.held ++ d.ledger.received ++ lost) ∧
    ∀ task ∈ lost, task.ticket ∈ d.pool.withdrawn

/-- Every request is in one state. -/
def Recorded (d : Desk β) : Prop :=
  (d.ledger.accepted ++ d.call.offered).Perm
    (d.pool.pending ++ d.call.revoked ++ d.ledger.received ++ d.ledger.cancelled)

theorem start_traced (threads queueCapacity resultCapacity : Nat) :
    (start threads queueCapacity resultCapacity : Desk β).Traced := by
  refine ⟨[], ?_, nofun⟩
  have hidle : (List.replicate (max threads 1) (Phase.idle : Phase β)).filterMap Phase.task? = [] :=
    List.filterMap_replicate_of_none rfl
  simp only [start, create, underWay, hidle]
  exact .nil

/-- The places of the accepted requests at a desk. -/
def places (d : Desk β) : List Task := d.pool.underWay ++ d.call.held ++ d.ledger.received

/-- What a step accepts finds a place, and what it takes from its place finds another one or is
lost. What is lost is withdrawn. -/
theorem Step.places {make : Maker β} {d d' : Desk β} (h : Step make d d')
    (htruthful : ∀ a ∈ d.pool.workers, a.Truthful d.pool.withdrawn) :
    ∃ lost : List Task,
      (d'.ledger.accepted ++ d.places).Perm (d.ledger.accepted ++ d'.places ++ lost) ∧
      ∀ task ∈ lost, task.ticket ∈ d'.pool.withdrawn := by
  unfold Desk.places
  cases h with
  | @worker p q call l before after a b hworkers hturn =>
    rcases hturn.underWay hworkers with hmoved | ⟨result, rfl, hkept, hmoved⟩
    · refine ⟨[], ?_, List.forall_mem_nil _⟩
      rw [List.append_nil]
      exact ((hmoved.append_right _).append_right _).append_left _
    · -- The request leaves the pool without a result, and was withdrawn before.
      refine ⟨[result.task], ?_, List.forall_mem_singleton.mpr ?_⟩
      · rw [List.perm_iff_count] at hmoved ⊢
        intro t
        have hmoved := hmoved t
        simp only [List.count_append] at hmoved ⊢
        omega
      · have hmem : Phase.counted result ∈ p.workers := by
          rw [hworkers]
          exact List.mem_append_right _ (List.mem_cons_self ..)
        rw [hturn.frame.2.1]
        exact mem_withdrawn_of_isDeliverable hkept (htruthful _ hmem)
  | begin request =>
    refine ⟨[], .of_eq ?_, List.forall_mem_nil _⟩
    cases request <;> exact (List.append_nil _).symm
  | enqueue h =>
    refine ⟨[], ?_, List.forall_mem_nil _⟩
    rw [List.perm_iff_count]
    intro t
    simp only [Ledger.accept, Ledger.received, underWay, Call.held, List.count_append,
      List.count_nil]
    omega
  | take h =>
    refine ⟨[], ?_, List.forall_mem_nil _⟩
    rw [List.perm_iff_count]
    intro t
    simp only [underWay, Call.held, h, List.map_cons, List.count_append, List.count_cons,
      List.count_nil]
    omega
  | @drop p l all result h =>
    refine ⟨[result.task], ?_, List.forall_mem_singleton.mpr (isWithdrawn_iff.mp h)⟩
    rw [List.perm_iff_count]
    intro t
    simp only [Call.held, List.count_append, List.count_nil]
    omega
  | @release p l all result =>
    refine ⟨[], ?_, List.forall_mem_nil _⟩
    have hheld : Call.held (if all then .receiving all else .ready : Call β) = [] := by
      cases all <;> rfl
    simp only [hheld, Ledger.received_deliver]
    rw [List.perm_iff_count]
    intro t
    simp only [Ledger.deliver, underWay, Pool.release, Call.held, List.count_append, List.count_nil]
    omega
  | _ => exact ⟨[], .of_eq (List.append_nil _).symm, List.forall_mem_nil _⟩

theorem Step.traced {make : Maker β} {d d' : Desk β} (h : Step make d d') (hd : d.Orderly)
    (ht : d.Traced) : d'.Traced := by
  obtain ⟨lost, hperm, hlost⟩ := ht
  obtain ⟨gone, hmoved, hgone⟩ := h.places hd.truthful
  refine ⟨gone ++ lost, ?_, ?_⟩
  · rw [List.perm_iff_count] at hperm hmoved ⊢
    intro t
    have hperm := hperm t
    have hmoved := hmoved t
    simp only [Desk.places, List.count_append] at hperm hmoved ⊢
    omega
  · -- What is withdrawn stays withdrawn.
    refine List.forall_mem_append.mpr ⟨hgone, fun task htask => ?_⟩
    exact h.withdrawn_subset (hlost task htask)

theorem start_recorded (threads queueCapacity resultCapacity : Nat) :
    (start threads queueCapacity resultCapacity : Desk β).Recorded := .nil

/-- Taking out all that agree with a member takes out the member alone, if no two agree. -/
theorem perm_cons_filter_ne {α γ : Type} [DecidableEq γ] {f : α → γ} {xs : List α} {x : α}
    (h : (xs.map f).Nodup) (hx : x ∈ xs) : xs.Perm (x :: xs.filter (f · != f x)) := by
  induction xs with
  | nil => cases hx
  | cons y ys ih =>
    obtain ⟨hy, hys⟩ := List.nodup_cons.mp h
    by_cases hxy : f y = f x
    · have hrest : ys.filter (f · != f x) = ys := by
        refine List.filter_eq_self.mpr fun z hz => bne_iff_ne.mpr fun hzx => hy ?_
        rw [hxy, ← hzx]
        exact List.mem_map_of_mem hz
      have hyx : x = y := by
        rcases List.mem_cons.mp hx with hx | hx
        · exact hx
        · exact absurd (hxy ▸ List.mem_map_of_mem hx) hy
      subst hyx
      rw [List.filter_cons_of_neg (by simp), hrest]
    · have hx' : x ∈ ys := by
        rcases List.mem_cons.mp hx with rfl | hx
        · exact absurd rfl hxy
        · exact hx
      have hkeep : (y :: ys).filter (f · != f x) = y :: ys.filter (f · != f x) :=
        List.filter_cons_of_pos (bne_iff_ne.mpr hxy)
      rw [hkeep]
      exact ((ih hys hx').cons y).trans (.swap ..)

theorem Orderly.nodup {d : Desk β} (h : d.Orderly) :
    (d.ledger.accepted ++ d.call.offered).Nodup :=
  .of_map _ h.tickets

theorem Orderly.accepted_nodup {d : Desk β} (h : d.Orderly) : d.ledger.accepted.Nodup :=
  h.nodup.of_append_left

theorem Orderly.perm_unregister {d : Desk β} (h : d.Orderly) {task : Task}
    (htask : task ∈ d.pool.pending) :
    d.pool.pending.Perm (task :: (d.pool.unregister task.key).pending) :=
  perm_cons_filter_ne h.keys htask

theorem Orderly.perm_release {d : Desk β} (h : d.Orderly) {task : Task}
    (htask : task ∈ d.pool.pending) :
    d.pool.pending.Perm (task :: (d.pool.release task).pending) := by
  have hnodup : (d.pool.pending.map id).Nodup := by
    rw [List.map_id]
    exact .of_map _ h.keys
  exact perm_cons_filter_ne hnodup htask

/-- A result that the caller is about to receive belongs to a registered request. -/
theorem mem_pending_of_due {d : Desk β} (hd : d.Orderly) (ht : d.Traced) (hr : d.Recorded)
    {task : Task} (h : task ∈ d.call.due) : task ∈ d.pool.pending := by
  obtain ⟨p, call, l⟩ := d
  cases call with
  | claimed all result =>
    obtain ⟨lost, hplaces, -⟩ := ht
    have hwithdrawn : result.task.ticket ∉ p.withdrawn :=
      hd.due _ (List.mem_singleton_self _)
    rw [List.mem_singleton.mp h]
    -- The request is with the caller, so it has not been delivered before.
    have hplaces := List.perm_iff_count.mp hplaces result.task
    have honce := List.nodup_iff_count_le_one.mp hd.accepted_nodup result.task
    simp only [Call.held, List.count_append, List.count_singleton_self] at hplaces honce
    -- It is not withdrawn, so it has not been cancelled.
    have hcancelled : result.task ∉ l.cancelled :=
      fun hmem => hwithdrawn (hd.mem_withdrawn.mpr ⟨_, hmem, rfl⟩)
    have hstates := List.perm_iff_count.mp hr result.task
    simp only [Call.offered, Call.revoked, List.count_append, List.count_nil,
      List.count_eq_zero.mpr hcancelled] at hstates
    change result.task ∈ p.pending
    exact List.count_pos_iff.mp (by omega)
  | _ => cases h

theorem Step.recorded {make : Maker β} {d d' : Desk β} (h : Step make d d') (hd : d.Orderly)
    (ht : d.Traced) (hr : d.Recorded) : d'.Recorded := by
  have hdue : ∀ task ∈ d.call.due, task ∈ d.pool.pending :=
    fun task h => mem_pending_of_due hd ht hr h
  unfold Recorded at hr ⊢
  cases h with
  | worker hworkers hturn =>
    simp only [hturn.frame.1]
    exact hr
  | begin request => cases request <;> exact hr
  | register h =>
    rw [List.perm_iff_count] at hr ⊢
    intro t
    have ht := hr t
    simp only [Call.offered, Call.revoked, List.count_append, List.count_nil] at ht ⊢
    omega
  | enqueue h =>
    simp only [Call.offered, Ledger.accept, List.append_nil] at hr ⊢
    exact hr
  | @unregister p l task =>
    -- The key is registered for the very request that has been refused.
    have hout := hd.perm_unregister (hd.offered task (List.mem_singleton_self _))
    rw [List.perm_iff_count] at hr hout ⊢
    intro t
    have ht := hr t
    have hout := hout t
    simp only [Call.offered, Call.revoked, List.count_append, List.count_cons,
      List.count_nil] at ht hout ⊢
    omega
  | takeOff h =>
    have hout := hd.perm_unregister h
    rw [List.perm_iff_count] at hr hout ⊢
    intro t
    have ht := hr t
    have hout := hout t
    simp only [Call.offered, Call.revoked, List.count_append, List.count_cons,
      List.count_nil] at ht hout ⊢
    omega
  | withdraw =>
    rw [List.perm_iff_count] at hr ⊢
    intro t
    have ht := hr t
    simp only [Call.offered, Call.revoked, Ledger.accepted_cancel, Ledger.received_cancel,
      Ledger.cancelled_cancel, Pool.withdraw, List.count_append, List.count_nil] at ht ⊢
    omega
  | @release p l all result =>
    have hout := hd.perm_release (hdue result.task (List.mem_singleton_self _))
    suffices h : (l.accepted ++ []).Perm
        ((p.release result.task).pending ++ [] ++ (l.received ++ [result.task]) ++
          l.cancelled) by
      rw [← Ledger.received_deliver] at h
      cases all <;> exact h
    rw [List.perm_iff_count] at hr hout ⊢
    intro t
    have ht := hr t
    have hout := hout t
    simp only [Call.offered, Call.revoked, List.count_append, List.count_cons,
      List.count_nil] at ht hout ⊢
    omega
  | _ => exact hr

/-- What is kept throughout a run. -/
structure Sound (d : Desk β) : Prop where
  orderly : d.Orderly
  traced : d.Traced
  recorded : d.Recorded

theorem start_sound (threads queueCapacity resultCapacity : Nat) :
    (start threads queueCapacity resultCapacity : Desk β).Sound where
  orderly := start_orderly ..
  traced := start_traced ..
  recorded := start_recorded ..

theorem Step.sound {make : Maker β} (honest : make.Truthful) {d d' : Desk β}
    (h : Step make d d') (hd : d.Sound) : d'.Sound where
  orderly := h.orderly honest hd.orderly
  traced := h.traced hd.orderly hd.traced
  recorded := h.recorded hd.orderly hd.traced hd.recorded

theorem play_sound {make : Maker β} (honest : make.Truthful)
    (threads queueCapacity resultCapacity : Nat) (moves : List Move) :
    ((start threads queueCapacity resultCapacity).play make moves).Sound :=
  play_invariant (fun h => h.sound honest) (start_sound ..) moves

/-! ## One request in both divisions -/

namespace Sound

variable {d : Desk β} {task : Task}

theorem received_subset (h : d.Sound) : d.ledger.received ⊆ d.ledger.accepted := by
  obtain ⟨lost, hperm, -⟩ := h.traced
  intro task htask
  exact hperm.mem_iff.mpr (List.mem_append_left _ (List.mem_append_right _ htask))

theorem underWay_subset (h : d.Sound) : d.pool.underWay ⊆ d.ledger.accepted := by
  obtain ⟨lost, hperm, -⟩ := h.traced
  intro task htask
  refine hperm.mem_iff.mpr ?_
  exact List.mem_append_left _ (List.mem_append_left _ (List.mem_append_left _ htask))

/-- A request is withdrawn if it has been cancelled, and only then. -/
theorem mem_withdrawn_iff (h : d.Sound) (htask : task ∈ d.ledger.accepted) :
    task.ticket ∈ d.pool.withdrawn ↔ task ∈ d.ledger.cancelled := by
  rw [h.orderly.mem_withdrawn]
  constructor
  · rintro ⟨other, hother, hticket⟩
    have hmem : other ∈ d.ledger.accepted ++ d.call.offered :=
      h.recorded.mem_iff.mpr (List.mem_append_right _ hother)
    rw [← List.inj_on_of_nodup_map h.orderly.tickets hmem (List.mem_append_left _ htask) hticket]
    exact hother
  · exact fun hcancelled => ⟨task, hcancelled, rfl⟩

/-- A request that no call is about is registered, received, or cancelled. -/
theorem count_states (h : d.Sound) (hcall : d.call.task? ≠ some task) :
    d.ledger.accepted.count task =
      d.pool.pending.count task + d.ledger.received.count task +
        d.ledger.cancelled.count task := by
  have hperm := List.perm_iff_count.mp h.recorded task
  have hcall : task ∉ d.call.offered ++ d.call.revoked ++ d.call.held :=
    fun hmem => hcall (Call.task?_of_mem hmem)
  simp only [List.mem_append, not_or] at hcall
  simp only [List.count_append, List.count_eq_zero.mpr hcall.1.1,
    List.count_eq_zero.mpr hcall.1.2] at hperm
  omega

/-- A request that is not withdrawn and that no call is about is under way or received. -/
theorem count_places (h : d.Sound) (hcall : d.call.task? ≠ some task)
    (hwithdrawn : task.ticket ∉ d.pool.withdrawn) :
    d.ledger.accepted.count task = d.pool.underWay.count task + d.ledger.received.count task := by
  obtain ⟨lost, hperm, hlost⟩ := h.traced
  have hperm := List.perm_iff_count.mp hperm task
  have hcall : task ∉ d.call.offered ++ d.call.revoked ++ d.call.held :=
    fun hmem => hcall (Call.task?_of_mem hmem)
  have hlost : task ∉ lost := fun hmem => hwithdrawn (hlost task hmem)
  simp only [List.mem_append, not_or] at hcall
  simp only [List.count_append, List.count_eq_zero.mpr hcall.2,
    List.count_eq_zero.mpr hlost] at hperm
  omega

theorem count_accepted_le_one (h : d.Sound) (task : Task) : d.ledger.accepted.count task ≤ 1 :=
  List.nodup_iff_count_le_one.mp h.orderly.accepted_nodup task

end Sound

end Desk

end Pool

end Landform
