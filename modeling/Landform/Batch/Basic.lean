import Landform.Batch.Event
import Landform.Pool.Client
import Landform.Pool.Worker

/-! # Batches

A batch sends a list of keys through a pool. Keys are submitted in their order. When the queue is
full the batch receives a result before it tries again, and after the last key it receives what is
left. -/

namespace Landform

/-- A batch on its way. -/
structure Batch where
  pool : Pool Chunk
  /-- The keys that are still to be submitted. -/
  todo : List ChunkKey
  /-- How many keys have neither a result nor been skipped. -/
  owed : Nat
  /-- The queue was full at the last attempt, and no result has been received since. -/
  held : Bool
  generated : Nat
  failures : Nat
  anomalies : Nat

namespace Batch

/-- A batch of keys for a pool. -/
def start (pool : Pool Chunk) (keys : List ChunkKey) : Batch where
  pool := pool
  todo := keys
  owed := keys.length
  held := false
  generated := 0
  failures := 0
  anomalies := 0

/-- Whether no call is left to make. -/
def isDone (b : Batch) : Bool := b.todo.isEmpty && !b.held && b.owed == 0

/-- The batch after a result. -/
def withResult (b : Batch) (r : TaskResult Chunk) : Batch :=
  let b := { b with owed := b.owed - 1, held := false }
  match r.outcome with
  | .ok chunk =>
    { b with
      generated := b.generated + 1
      anomalies := b.anomalies + chunk.diagnostics.anomalies }
  | .error _ => { b with failures := b.failures + 1 }

/-- The batch after it has received a result, and the event. There is none while no result is
there. -/
def receive? (b : Batch) : Option (Batch × Option Event) :=
  b.pool.receive?.map fun
    | (some r, pool) => ({ b with pool }.withResult r, some (.ofResult r))
    | (none, pool) => ({ b with pool }, none)

/-- The batch after its next call, and the event if there is one. There is no next call when the
batch is done, and none for now while it waits for a result. -/
def step? (b : Batch) : Option (Batch × Option Event) :=
  match b.todo, b.held with
  | key :: rest, false =>
    match b.pool.submit key with
    | (.ok (), pool) => some ({ b with pool, todo := rest }, none)
    | (.error (.queueFull _), pool) => some ({ b with pool, held := true }, none)
    | (.error e, pool) =>
      some ({ b with pool, todo := rest, owed := b.owed - 1 }, some (.skipped e))
  | [], false => if b.owed = 0 then none else b.receive?
  | _, true => b.receive?

/-- The batch after its next call, before which the workers do all they can. -/
def next? (make : Maker Chunk) (b : Batch) : Option (Batch × Option Event) :=
  { b with pool := b.pool.settle make }.step?

/-- The number of calls that a batch needs at most: every key is submitted, may find the queue full,
and may have a result. -/
def calls (b : Batch) : Nat := 3 * (b.todo.length + b.owed) + b.pool.results.length + 1

/-- The batch after at most so many calls, and the events after those that are there already. -/
def runWithin (make : Maker Chunk) : (count : Nat) → Batch → List Event → Batch × List Event
  | 0, b, events => (b, events.reverse)
  | count + 1, b, events =>
    match b.next? make with
    | none => (b, events.reverse)
    | some (b, event) => runWithin make count b (event.toList ++ events)

/-- The batch after all its calls, and the events. -/
def run (make : Maker Chunk) (b : Batch) : Batch × List Event := b.runWithin make b.calls []

/-- The events that end a batch after its last call. -/
def closing (b : Batch) : List Event :=
  if b.isDone then
    .finished b.pool.tally b.anomalies ::
      (if b.failures = 0 then [] else [.incomplete b.failures])
  else [.aborted (.timedOut b.owed)]

/-- Whether every key has its chunk. -/
def succeeded (b : Batch) : Bool := b.isDone && b.failures == 0

end Batch

end Landform
