import Landform.Pool.Basic

/-! # What workers do in a pool

A worker takes the oldest task, makes what it asks for unless it is withdrawn, counts the outcome,
puts the result among the results unless the task is withdrawn by then, and is done with it. These
are steps of their own, between which other workers and callers take theirs. -/

namespace Landform

/-- Makes what a task asks for. The flag says whether the task is withdrawn. -/
abbrev Maker (β : Type) := ChunkKey → Bool → Except RequestError β

/-- The number of steps that remain to a worker until it has no task. -/
def Phase.remaining {β : Type} : Phase β → Nat
  | idle => 0
  | leaving => 1
  | delivering _ => 2
  | counted _ => 3
  | finished _ => 4
  | running _ => 5
  | taken _ => 6

namespace Pool

variable {β : Type}

/-- The pool with another phase of one worker. -/
def withPhase (p : Pool β) (i : Nat) (phase : Phase β) : Pool β :=
  { p with workers := p.workers.set i phase }

/-- Whether a result goes to the results: its outcome is not that the task was withdrawn, and the
task is not withdrawn now. -/
def isDeliverable (p : Pool β) (result : TaskResult β) : Bool :=
  match result.outcome with
  | .error .cancelled => false
  | _ => !p.isWithdrawn result.task.ticket

/-- The pool after the next step of a worker in the given phase. There is none where the worker
waits for a task or for room among the results. -/
def stepFrom? (make : Maker β) (p : Pool β) (i : Nat) : Phase β → Option (Pool β)
  | .idle => p.dequeue?.map fun (task, p) => p.withPhase i (.taken task)
  | .taken task =>
    some (p.withPhase i
      (if p.isWithdrawn task.ticket then .finished ⟨task, .error .cancelled⟩ else .running task))
  | .running task =>
    some (p.withPhase i (.finished ⟨task, make task.key (p.isWithdrawn task.ticket)⟩))
  | .finished result =>
    some ({ p with tally := p.tally.count result.outcome }.withPhase i (.counted result))
  | .counted result =>
    some (p.withPhase i (if p.isDeliverable result then .delivering result else .leaving))
  | .delivering result => (p.deliver? result).map (·.withPhase i .leaving)
  | .leaving => some (p.leave.withPhase i .idle)

/-- The pool after the next step of a worker. -/
def step? (make : Maker β) (p : Pool β) (i : Nat) : Option (Pool β) :=
  p.workers[i]?.bind (p.stepFrom? make i)

/-! ## Pools at rest -/

/-- The number of steps that the workers can take at most before the next call. -/
def work (p : Pool β) : Nat := 7 * p.queue.length + p.workers.foldr (·.remaining + ·) 0

/-- The pool after a step of the first worker that can take one. -/
def stepAny? (make : Maker β) (p : Pool β) : Option (Pool β) :=
  (List.range p.threads).findSome? (p.step? make)

/-- The pool after so many steps, or fewer if no worker can take one any more. -/
def stepMany (make : Maker β) : (count : Nat) → Pool β → Pool β
  | 0, p => p
  | count + 1, p =>
    match p.stepAny? make with
    | some p => stepMany make count p
    | none => p

/-- The pool when the workers have done all they can without another call. -/
def settle (make : Maker β) (p : Pool β) : Pool β := stepMany make p.work p

end Pool

end Landform
