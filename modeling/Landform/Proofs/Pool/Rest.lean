import Landform.Proofs.Pool.Pending

/-! # Pools at rest

Every step of a worker lowers the number of steps that remain to the workers, so workers that are
left alone come to rest. Before that, some worker has a step to take: the only wait that a worker
can be in with a task is the one for room among the results, and there is room when no result is
there. So nobody who waits for a result of a pool with something under way waits in vain. -/

namespace Landform.Pool

variable {β : Type} {make : Maker β}

/-! ## Work -/

theorem work_eq_sum (p : Pool β) :
    p.work = 7 * p.queue.length + (p.workers.map Phase.remaining).sum := by
  rw [List.sum_eq_foldr, List.foldr_map]
  rfl

theorem Turn.work {p q : Pool β} {before after : List (Phase β)} {a b : Phase β}
    (hworkers : p.workers = before ++ a :: after) (h : Turn make p a b q) :
    work { q with workers := before ++ b :: after } < p.work := by
  rw [work_eq_sum, work_eq_sum, hworkers]
  simp only [List.map_append, List.map_cons, List.sum_append, List.sum_cons]
  cases h with
  | take h =>
    -- A task that waits stands for all the steps that it takes, and the first one is taken.
    simp only [h, List.length_cons, Phase.remaining]
    omega
  | leave =>
    simp only [Pool.leave, Phase.remaining]
    omega
  | _ =>
    simp only [Phase.remaining]
    omega

theorem step?_work {p q : Pool β} {i : Nat} (h : p.step? make i = some q) : q.work < p.work := by
  obtain ⟨before, a, after, b, p', hworkers, hturn, rfl⟩ := step?_eq_some h
  exact hturn.work hworkers

/-! ## Coming to rest -/

/-- No worker has a step to take. -/
def Quiet (make : Maker β) (p : Pool β) : Prop := ∀ i, p.step? make i = none

theorem stepAny?_eq_some {p q : Pool β} (h : p.stepAny? make = some q) :
    ∃ i, p.step? make i = some q := by
  obtain ⟨i, -, hstep⟩ := List.exists_of_findSome?_eq_some h
  exact ⟨i, hstep⟩

theorem quiet_of_stepAny? {p : Pool β} (h : p.stepAny? make = none) : p.Quiet make := by
  intro i
  by_cases hi : i < p.threads
  · exact List.findSome?_eq_none_iff.mp h i (List.mem_range.mpr hi)
  · rw [step?, List.getElem?_eq_none (Nat.le_of_not_lt hi)]
    rfl

theorem stepMany_quiet {count : Nat} {p : Pool β} (h : p.work ≤ count) :
    (stepMany make count p).Quiet make := by
  induction count generalizing p with
  | zero =>
    intro i
    cases hstep : p.step? make i with
    | none => exact hstep
    | some q =>
      have hlt := step?_work hstep
      omega
  | succ count ih =>
    unfold stepMany
    cases hany : p.stepAny? make with
    | none => exact quiet_of_stepAny? hany
    | some q =>
      obtain ⟨i, hstep⟩ := stepAny?_eq_some hany
      have hlt := step?_work hstep
      exact ih (by omega)

theorem settle_quiet (p : Pool β) : (p.settle make).Quiet make := stepMany_quiet (Nat.le_refl _)

/-- What the steps of workers keep holds when they have come to rest. -/
theorem settle_invariant {motive : Pool β → Prop}
    (step : ∀ {p q : Pool β} {i : Nat}, p.step? make i = some q → motive p → motive q)
    {p : Pool β} (h : motive p) : motive (p.settle make) := by
  unfold settle
  generalize p.work = count
  induction count generalizing p with
  | zero => exact h
  | succ count ih =>
    unfold stepMany
    cases hany : p.stepAny? make with
    | none => exact h
    | some q =>
      obtain ⟨i, hstep⟩ := stepAny?_eq_some hany
      exact ih (step hstep h)

/-! ## Steps that can be taken -/

/-- A pool that can work: it has a worker, and room for a task and for a result. -/
structure Able (p : Pool β) : Prop where
  threads : 0 < p.threads
  queue : 0 < p.queueCapacity
  results : 0 < p.resultCapacity

theorem create_able (threads queueCapacity resultCapacity : Nat) :
    (create threads queueCapacity resultCapacity : Pool β).Able where
  threads := by
    rw [Pool.threads, create, List.length_replicate]
    exact Nat.lt_of_lt_of_le Nat.zero_lt_one (Nat.le_max_right ..)
  queue := Nat.lt_of_lt_of_le Nat.zero_lt_one (Nat.le_max_right ..)
  results := Nat.lt_of_lt_of_le Nat.zero_lt_one (Nat.le_max_right ..)

/-- A worker with a task can go on if there is room among the results. -/
theorem stepFrom?_isSome {p : Pool β} (hroom : p.results.length < p.resultCapacity) {a : Phase β}
    (ha : a ≠ .idle) (i : Nat) : (p.stepFrom? make i a).isSome = true := by
  cases a with
  | idle => exact absurd rfl ha
  | delivering result =>
    simp only [stepFrom?, deliver?, if_pos hroom, Option.map_some, Option.isSome_some]
  | _ => rfl

/-- What is under way is in the queue or with a worker, if it is not among the results. -/
theorem queued_or_busy {p : Pool β} (hresults : p.results = []) (hway : p.underWay ≠ []) :
    p.queue ≠ [] ∨ ∃ a ∈ p.workers, a ≠ .idle := by
  by_contra hnone
  obtain ⟨hqueue, hbusy⟩ := not_or.mp hnone
  have hidle : p.workers.filterMap Phase.task? = [] := by
    refine List.filterMap_eq_nil_iff.mpr fun a ha => ?_
    have ha : a = .idle := by
      by_contra hne
      exact hbusy ⟨a, ha, hne⟩
    rw [ha]
    rfl
  apply hway
  rw [underWay, not_not.mp hqueue, hidle, hresults]
  rfl

/-- Some worker can go on if anything is under way that is not a result yet, as long as no result
takes up room. -/
theorem Able.exists_step {p : Pool β} (h : p.Able) (hresults : p.results = [])
    (hway : p.underWay ≠ []) : ∃ i, (p.step? make i).isSome = true := by
  have hroom : p.results.length < p.resultCapacity := by
    rw [hresults]
    exact h.results
  by_cases hbusy : ∃ a ∈ p.workers, a ≠ .idle
  · obtain ⟨a, ha, hidle⟩ := hbusy
    obtain ⟨i, hi⟩ := List.mem_iff_getElem?.mp ha
    refine ⟨i, ?_⟩
    rw [step?, hi]
    exact stepFrom?_isSome hroom hidle i
  · -- Everybody is idle, so the first worker takes the first task.
    have hqueue := (queued_or_busy hresults hway).resolve_right hbusy
    obtain ⟨task, rest, hqueue⟩ := List.exists_cons_of_ne_nil hqueue
    obtain ⟨a, others, hfirst⟩ :=
      List.exists_cons_of_ne_nil (List.ne_nil_of_length_pos h.threads)
    have ha : a = .idle := by
      by_contra hne
      exact hbusy ⟨a, hfirst ▸ List.mem_cons_self .., hne⟩
    refine ⟨0, ?_⟩
    rw [step?, hfirst, ha]
    simp only [List.getElem?_cons_zero, Option.bind_some, stepFrom?, dequeue?, hqueue,
      Option.map_some, Option.isSome_some]

/-- A pool at rest with something under way has a result. -/
theorem Quiet.results_ne_nil {p : Pool β} (h : p.Quiet make) (hable : p.Able)
    (hway : p.underWay ≠ []) : p.results ≠ [] := by
  intro hresults
  obtain ⟨i, hi⟩ : ∃ i, (p.step? make i).isSome = true := hable.exists_step hresults hway
  rw [h i] at hi
  cases hi

namespace Desk

/-! ## Callers who wait -/

/-- The number of workers and the room stay as they are. -/
theorem Step.size {d d' : Desk β} (h : Step make d d') :
    d'.pool.threads = d.pool.threads ∧ d'.pool.queueCapacity = d.pool.queueCapacity ∧
      d'.pool.resultCapacity = d.pool.resultCapacity := by
  cases h with
  | worker hworkers hturn =>
    refine ⟨?_, ?_⟩
    · simp only [Pool.threads, hworkers, List.length_append, List.length_cons]
    · cases hturn <;> exact ⟨rfl, rfl⟩
  | _ => exact ⟨rfl, rfl, rfl⟩

theorem Step.able {d d' : Desk β} (h : Step make d d') (hd : d.pool.Able) : d'.pool.Able := by
  obtain ⟨hthreads, hqueue, hresults⟩ := h.size
  exact ⟨hthreads ▸ hd.threads, hqueue ▸ hd.queue, hresults ▸ hd.results⟩

namespace Sound

variable {d : Desk β}

/-- Fewer results than accepted requests leave a request without a result. -/
theorem exists_outstanding (h : d.Sound)
    (hlt : d.ledger.delivered.length < d.ledger.accepted.length) :
    ∃ task ∈ d.ledger.accepted, task ∉ d.ledger.received := by
  by_contra hnone
  have hall : d.ledger.accepted ⊆ d.ledger.received := by
    intro task htask
    by_contra hreceived
    exact hnone ⟨task, htask, hreceived⟩
  have hle := (List.subperm_of_subset h.orderly.accepted_nodup hall).length_le
  rw [Ledger.received, List.length_map] at hle
  omega

/-- A request without a result is under way, unless it was cancelled or is what the call is
about. -/
theorem underWay_ne_nil (h : d.Sound) {task : Task} (hcall : d.call.task? ≠ some task)
    (haccepted : task ∈ d.ledger.accepted) (hreceived : task ∉ d.ledger.received)
    (hcancelled : task ∉ d.ledger.cancelled) : d.pool.underWay ≠ [] := by
  have hpending := (h.mem_pending_iff hcall).mpr ⟨haccepted, hreceived, hcancelled⟩
  obtain ⟨-, -, hcount⟩ := (h.mem_pending_iff_underWay hcall).mp hpending
  intro hnil
  rw [hnil] at hcount
  cases hcount

end Sound

end Desk

end Landform.Pool
