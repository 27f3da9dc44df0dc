import Landform.Proofs.Pool.Desk

/-! # What a step can do

Every move at a desk that changes anything is one of the steps listed here, each with the condition
under which it happens and everything it changes. What is said about all runs of a pool is shown
step by step along these lists. -/

namespace Landform.Pool

variable {β : Type}

/-! ## Workers -/

/-- From one phase to the next, a worker changes the rest of the pool at most in this way. -/
inductive Turn (make : Maker β) (p : Pool β) : Phase β → Phase β → Pool β → Prop where
  | take {task : Task} {rest : List Task} (h : p.queue = task :: rest) :
    Turn make p .idle (.taken task) { p with queue := rest }
  /-- The task was withdrawn while it waited. -/
  | skip {task : Task} (h : p.isWithdrawn task.ticket = true) :
    Turn make p (.taken task) (.finished ⟨task, .error .cancelled⟩) p
  | run {task : Task} (h : p.isWithdrawn task.ticket = false) :
    Turn make p (.taken task) (.running task) p
  | make {task : Task} :
    Turn make p (.running task)
      (.finished ⟨task, make task.key (p.isWithdrawn task.ticket)⟩) p
  | count {result : TaskResult β} :
    Turn make p (.finished result) (.counted result)
      { p with tally := p.tally.count result.outcome }
  | keep {result : TaskResult β} (h : p.isDeliverable result = true) :
    Turn make p (.counted result) (.delivering result) p
  /-- Nobody gets the result. -/
  | discard {result : TaskResult β} (h : p.isDeliverable result = false) :
    Turn make p (.counted result) .leaving p
  | deliver {result : TaskResult β} (h : p.results.length < p.resultCapacity) :
    Turn make p (.delivering result) .leaving { p with results := p.results ++ [result] }
  | leave : Turn make p .leaving .idle p.leave

/-- A step from a phase is a turn, and it sets that phase. -/
theorem stepFrom?_eq_some {make : Maker β} {p q : Pool β} {i : Nat} {a : Phase β}
    (h : p.stepFrom? make i a = some q) :
    ∃ b p', Turn make p a b p' ∧ q = { p' with workers := p.workers.set i b } := by
  cases a with
  | idle =>
    obtain ⟨⟨task, p'⟩, htake, rfl⟩ := Option.map_eq_some_iff.mp h
    unfold dequeue? at htake
    split at htake
    · cases htake
    · rename_i hqueue
      cases htake
      exact ⟨_, _, .take hqueue, rfl⟩
  | taken task =>
    cases h
    cases hw : p.isWithdrawn task.ticket with
    | true => exact ⟨_, _, .skip hw, rfl⟩
    | false => exact ⟨_, _, .run hw, rfl⟩
  | running task =>
    cases h
    exact ⟨_, _, .make, rfl⟩
  | finished result =>
    cases h
    exact ⟨_, _, .count, rfl⟩
  | counted result =>
    cases h
    cases hk : p.isDeliverable result with
    | true => exact ⟨_, _, .keep hk, rfl⟩
    | false => exact ⟨_, _, .discard hk, rfl⟩
  | delivering result =>
    obtain ⟨p', hdeliver, rfl⟩ := Option.map_eq_some_iff.mp h
    unfold deliver? at hdeliver
    split at hdeliver
    · rename_i hroom
      cases hdeliver
      exact ⟨_, _, .deliver hroom, rfl⟩
    · cases hdeliver
  | leaving =>
    cases h
    exact ⟨_, _, .leave, rfl⟩

/-- A step of a worker is a turn of one phase in the row of workers. -/
theorem step?_eq_some {make : Maker β} {p q : Pool β} {i : Nat} (h : p.step? make i = some q) :
    ∃ before a after b p', p.workers = before ++ a :: after ∧ Turn make p a b p' ∧
      q = { p' with workers := before ++ b :: after } := by
  obtain ⟨a, ha, hstep⟩ := Option.bind_eq_some_iff.mp h
  -- The row of workers is cut at the one whose turn it is.
  obtain ⟨hi, rfl⟩ := List.getElem?_eq_some_iff.mp ha
  obtain ⟨b, p', hturn, rfl⟩ := stepFrom?_eq_some hstep
  obtain ⟨before, after, hworkers, -, hset⟩ :
      ∃ before after, p.workers = before ++ p.workers[i] :: after ∧ before.length = i ∧
        p.workers.set i b = before ++ b :: after := List.exists_of_set hi
  exact ⟨before, p.workers[i], after, b, p', hworkers, hturn, by rw [hset]⟩

/-- What holds of all in a row holds after a turn if it holds of the one whose turn it was. -/
theorem forall_mem_of_turn {α : Type} {motive : α → Prop} {before after : List α} {a b : α}
    (h : ∀ c ∈ before ++ a :: after, motive c) (hb : motive b) :
    ∀ c ∈ before ++ b :: after, motive c := by
  intro c hc
  rcases List.mem_append.mp hc with hc | hc
  · exact h c (List.mem_append_left _ hc)
  · rcases List.mem_cons.mp hc with rfl | hc
    · exact hb
    · exact h c (List.mem_append_right _ (List.mem_cons_of_mem _ hc))

namespace Desk

/-! ## Desks -/

/-- One step at a desk. -/
inductive Step (make : Maker β) : Desk β → Desk β → Prop where
  | worker {p q : Pool β} {call : Call β} {l : Ledger β} {before after : List (Phase β)}
    {a b : Phase β} (hworkers : p.workers = before ++ a :: after) (h : Turn make p a b q) :
    Step make ⟨p, call, l⟩ ⟨{ q with workers := before ++ b :: after }, call, l⟩
  | begin {p : Pool β} {l : Ledger β} (request : Request) :
    Step make ⟨p, .ready, l⟩ ⟨p, request.call, l⟩
  | alreadyPending {p : Pool β} {l : Ledger β} {key : ChunkKey} (h : p.isPending key = true) :
    Step make ⟨p, .submitting key, l⟩ ⟨p, .ready, l⟩
  | register {p : Pool β} {l : Ledger β} {key : ChunkKey} (h : p.isPending key = false) :
    Step make ⟨p, .submitting key, l⟩
      ⟨{ p with
          pending := p.pending ++ [⟨key, p.nextTicket⟩]
          nextTicket := p.nextTicket + 1 },
        .registered ⟨key, p.nextTicket⟩, l⟩
  | enter {p : Pool β} {l : Ledger β} {task : Task} :
    Step make ⟨p, .registered task, l⟩ ⟨p.enter, .entered task, l⟩
  | enqueue {p : Pool β} {l : Ledger β} {task : Task}
    (h : p.queue.length < p.queueCapacity) :
    Step make ⟨p, .entered task, l⟩
      ⟨{ p with queue := p.queue ++ [task] }, .ready, l.accept task⟩
  | queueFull {p : Pool β} {l : Ledger β} {task : Task}
    (h : ¬p.queue.length < p.queueCapacity) :
    Step make ⟨p, .entered task, l⟩ ⟨p, .refused task, l⟩
  | leave {p : Pool β} {l : Ledger β} {task : Task} :
    Step make ⟨p, .refused task, l⟩ ⟨p.leave, .left task, l⟩
  | unregister {p : Pool β} {l : Ledger β} {task : Task} :
    Step make ⟨p, .left task, l⟩ ⟨p.unregister task.key, .ready, l⟩
  | notPending {p : Pool β} {l : Ledger β} {key : ChunkKey} (h : p.registered? key = none) :
    Step make ⟨p, .cancelling key, l⟩ ⟨p, .ready, l⟩
  /-- The registered request of a key is taken off the register. -/
  | takeOff {p : Pool β} {l : Ledger β} {task : Task} (h : task ∈ p.pending) :
    Step make ⟨p, .cancelling task.key, l⟩ ⟨p.unregister task.key, .unregistered task, l⟩
  | withdraw {p : Pool β} {l : Ledger β} {task : Task} :
    Step make ⟨p, .unregistered task, l⟩ ⟨p.withdraw task.ticket, .ready, l.cancel task⟩
  | giveUp {p : Pool β} {l : Ledger β} {all : Bool} (h : p.results = []) :
    Step make ⟨p, .receiving all, l⟩ ⟨p, .ready, l⟩
  | take {p : Pool β} {l : Ledger β} {all : Bool} {result : TaskResult β}
    {rest : List (TaskResult β)} (h : p.results = result :: rest) :
    Step make ⟨p, .receiving all, l⟩ ⟨{ p with results := rest }, .taken all result, l⟩
  /-- The result was withdrawn while it waited. -/
  | drop {p : Pool β} {l : Ledger β} {all : Bool} {result : TaskResult β}
    (h : p.isWithdrawn result.task.ticket = true) :
    Step make ⟨p, .taken all result, l⟩ ⟨p, .receiving all, l⟩
  | claim {p : Pool β} {l : Ledger β} {all : Bool} {result : TaskResult β}
    (h : p.isWithdrawn result.task.ticket = false) :
    Step make ⟨p, .taken all result, l⟩ ⟨p, .claimed all result, l⟩
  | release {p : Pool β} {l : Ledger β} {all : Bool} {result : TaskResult β} :
    Step make ⟨p, .claimed all result, l⟩
      ⟨p.release result.task, if all then .receiving all else .ready, l.deliver result⟩

section Steps

variable (make : Maker β) (d : Desk β)

theorem begin_step (request : Request) :
    d.begin request = d ∨ Step make d (d.begin request) := by
  obtain ⟨p, call, l⟩ := d
  cases call with
  | ready => exact .inr (.begin request)
  | _ => exact .inl rfl

theorem proceed_step : d.proceed = d ∨ Step make d d.proceed := by
  obtain ⟨p, call, l⟩ := d
  cases call with
  | ready => exact .inl rfl
  | submitting key =>
    refine .inr ?_
    cases hp : p.isPending key with
    | true =>
      rw [proceed_submitting_none (if_pos hp)]
      exact .alreadyPending hp
    | false =>
      rw [proceed_submitting_some (if_neg (by rw [hp]; exact Bool.false_ne_true))]
      exact .register hp
  | registered task => exact .inr .enter
  | entered task =>
    refine .inr ?_
    by_cases hroom : p.queue.length < p.queueCapacity
    · rw [proceed_entered_some (if_pos hroom)]
      exact .enqueue hroom
    · rw [proceed_entered_none (if_neg hroom)]
      exact .queueFull hroom
  | refused task => exact .inr .leave
  | left task => exact .inr .unregister
  | cancelling key =>
    refine .inr ?_
    cases hr : p.registered? key with
    | none =>
      rw [proceed_cancelling_none hr]
      exact .notPending hr
    | some task =>
      rw [proceed_cancelling_some hr]
      have hkey : task.key = key := by simpa using List.find?_some hr
      subst hkey
      exact .takeOff (List.mem_of_find?_eq_some hr)
  | unregistered task => exact .inr .withdraw
  | receiving all =>
    refine .inr ?_
    cases hr : p.results with
    | nil =>
      rw [proceed_receiving_none (by simp only [take?, hr])]
      exact .giveUp hr
    | cons result rest =>
      have htake : p.take? = some (result, { p with results := rest }) := by
        simp only [take?, hr]
      rw [proceed_receiving_some htake]
      exact .take hr
  | taken all result =>
    refine .inr ?_
    cases hw : p.isWithdrawn result.task.ticket with
    | true =>
      rw [proceed_taken_of_withdrawn hw]
      exact .drop hw
    | false =>
      rw [proceed_taken_of_not_withdrawn hw]
      exact .claim hw
  | claimed all result => exact .inr .release

/-- A move changes nothing or is a step. -/
theorem move_step (m : Move) : d.move make m = d ∨ Step make d (d.move make m) := by
  cases m with
  | worker i =>
    cases hstep : d.pool.step? make i with
    | none => exact .inl (by simp only [move, hstep])
    | some q =>
      obtain ⟨before, a, after, b, p', hworkers, hturn, rfl⟩ := step?_eq_some hstep
      simp only [move, hstep]
      exact .inr (.worker hworkers hturn)
  | call request => exact begin_step make d request
  | proceed => exact proceed_step make d

/-- What every step keeps holds throughout a run. -/
theorem play_invariant {make : Maker β} {motive : Desk β → Prop}
    (step : ∀ {d d' : Desk β}, Step make d d' → motive d → motive d') {d : Desk β}
    (h : motive d) (moves : List Move) : motive (d.play make moves) := by
  induction moves generalizing d with
  | nil => exact h
  | cons m moves ih =>
    refine ih ?_
    obtain heq | hstep := move_step make d m
    · rw [heq]
      exact h
    · exact step hstep h

end Steps

end Desk

end Landform.Pool
