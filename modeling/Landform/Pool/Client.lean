import Landform.Pool.Basic

/-! # What callers do with a pool

Requests are submitted and withdrawn, and results are received. The results of requests that were
withdrawn in the meantime are dropped on the way. -/

namespace Landform.Pool

variable {β : Type}

/-- Requests a key. A refused request leaves nothing behind but its ticket, which is not given out
again. -/
def submit (p : Pool β) (key : ChunkKey) : Except SubmitError Unit × Pool β :=
  match p.register? key with
  | none => (.error (.alreadyPending key), p)
  | some (task, p) =>
    let p := p.enter
    match p.enqueue? task with
    | some p => (.ok (), p)
    | none => (.error (.queueFull key), p.leave.unregister key)

/-- Withdraws the pending request of a key, if there is one. -/
def cancel (p : Pool β) (key : ChunkKey) : Bool × Pool β :=
  match p.registered? key with
  | none => (false, p)
  | some task => (true, (p.unregister key).withdraw task.ticket)

/-- Whether a result that was taken off is for its caller. If so, the request is not pending any
more. -/
def finish (p : Pool β) (result : TaskResult β) : Bool × Pool β :=
  if p.isWithdrawn result.task.ticket then (false, p) else (true, p.release result.task)

/-- Takes the oldest result off, if there is one, and gives it to its caller unless its request is
withdrawn. -/
def receive? (p : Pool β) : Option (Option (TaskResult β) × Pool β) :=
  p.take?.map fun (result, p) =>
    match p.finish result with
    | (true, p) => (some result, p)
    | (false, p) => (none, p)

/-- The first result for a caller among the next `count` ones. -/
def recvWithin : (count : Nat) → Pool β → Option (TaskResult β) × Pool β
  | 0, p => (none, p)
  | count + 1, p =>
    match p.receive? with
    | none => (none, p)
    | some (some result, p) => (some result, p)
    | some (none, p) => recvWithin count p

/-- The next result for a caller, if there is one by now. -/
def recv (p : Pool β) : Option (TaskResult β) × Pool β := recvWithin p.results.length p

/-- The results for callers among the next `count` ones. -/
def drainWithin : (count : Nat) → Pool β → List (TaskResult β) × Pool β
  | 0, p => ([], p)
  | count + 1, p =>
    match p.receive? with
    | none => ([], p)
    | some (result, p) =>
      let (results, p) := drainWithin count p
      (result.toList ++ results, p)

/-- All results for callers that are there by now. -/
def drain (p : Pool β) : List (TaskResult β) × Pool β := drainWithin p.results.length p

end Landform.Pool
