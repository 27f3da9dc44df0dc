import Landform.Request

/-! # Pools

A pool of workers makes what is asked for in the background. Tasks wait in a bounded queue, results
wait in another one, and every request can be withdrawn until its result is delivered. While a
request is pending its key is registered, and the same key cannot be requested again.

The first half of this file is the state of a pool. The second half is everything that can be done
to the shared parts of it in one go: the register, the queue, the results, the withdrawn tickets and
the number of tasks in flight. All operations on pools are made of these. -/

namespace Landform

/-- Tells a request apart from every other request, also of the same key. -/
abbrev Ticket := Nat

/-- A request in a pool. -/
structure Task where
  key : ChunkKey
  ticket : Ticket
  deriving DecidableEq, Repr

/-- What became of a task. -/
structure TaskResult (β : Type) where
  task : Task
  outcome : Except RequestError β

/-- Why a pool refuses a request. -/
inductive SubmitError where
  /-- No further task can wait. -/
  | queueFull (key : ChunkKey)
  /-- The key is registered. -/
  | alreadyPending (key : ChunkKey)
  deriving DecidableEq, Repr

/-- The wording of a refusal. -/
def SubmitError.message : SubmitError → String
  | queueFull key => "generation queue full, rejected chunk " ++ key.text
  | alreadyPending key => "chunk " ++ key.text ++ " is already pending"

/-- How many tasks ended in which way. -/
structure Tally where
  generated : Nat
  failed : Nat
  cancelled : Nat
  deriving DecidableEq, Repr, Inhabited

/-- A tally with one more outcome. -/
def Tally.count {β : Type} (t : Tally) : Except RequestError β → Tally
  | .ok _ => { t with generated := t.generated + 1 }
  | .error .cancelled => { t with cancelled := t.cancelled + 1 }
  | .error _ => { t with failed := t.failed + 1 }

/-- How far a worker is with its task. -/
inductive Phase (β : Type) where
  /-- It has no task. -/
  | idle
  /-- It has taken a task and has not looked yet whether that is withdrawn. -/
  | taken (task : Task)
  | running (task : Task)
  /-- It has a result, which is not counted yet. -/
  | finished (result : TaskResult β)
  /-- The result is counted. Whether it goes to the results is not decided yet. -/
  | counted (result : TaskResult β)
  /-- It waits for room among the results. -/
  | delivering (result : TaskResult β)
  /-- It is done with its task, which still counts as in flight. -/
  | leaving

/-- The state of a pool. -/
structure Pool (β : Type) where
  /-- How many tasks can wait. -/
  queueCapacity : Nat
  /-- How many results can wait. -/
  resultCapacity : Nat
  /-- The tasks that wait for a worker, the oldest one first. -/
  queue : List Task
  /-- The results that wait to be received, the oldest one first. -/
  results : List (TaskResult β)
  /-- The register: the task of every pending key. -/
  pending : List Task
  /-- The tickets of the requests that are withdrawn. -/
  withdrawn : List Ticket
  /-- The ticket of the next request. -/
  nextTicket : Ticket
  /-- The number of tasks that wait or are with a worker. -/
  inFlight : Nat
  tally : Tally
  workers : List (Phase β)

namespace Pool

variable {β : Type}

/-- A pool without any request. It has at least one worker, and room for at least one task and one
result. -/
def create (threads queueCapacity resultCapacity : Nat) : Pool β where
  queueCapacity := max queueCapacity 1
  resultCapacity := max resultCapacity 1
  queue := []
  results := []
  pending := []
  withdrawn := []
  nextTicket := 0
  inFlight := 0
  tally := ⟨0, 0, 0⟩
  workers := List.replicate (max threads 1) .idle

/-- The number of workers. -/
def threads (p : Pool β) : Nat := p.workers.length

/-! ## Room -/

/-- The bytes that a task takes in the queue. -/
def taskBytes : Nat := 40

/-- The bytes that a result takes among the results. -/
def resultBytes : Nat := 168

/-- The most bytes that the queue can take, and that the results can take. -/
def maxBytes : Nat := 0x7FFFFFFFFFFFFFFF

/-- Whether the queue and the results fit in memory when they are full. Their room is set aside
when the pool is made, so a pool that does not fit cannot be had. -/
def fits (p : Pool β) : Bool :=
  p.queueCapacity * taskBytes ≤ maxBytes && p.resultCapacity * resultBytes ≤ maxBytes

/-! ## The register -/

/-- The registered task of a key. -/
def registered? (p : Pool β) (key : ChunkKey) : Option Task := p.pending.find? (·.key == key)

/-- Whether the key is registered. -/
def isPending (p : Pool β) (key : ChunkKey) : Bool := (p.registered? key).isSome

/-- Registers a key that is not registered, for a request with a ticket of its own. -/
def register? (p : Pool β) (key : ChunkKey) : Option (Task × Pool β) :=
  if p.isPending key then none
  else
    let task : Task := ⟨key, p.nextTicket⟩
    some (task, { p with pending := p.pending ++ [task], nextTicket := p.nextTicket + 1 })

/-- Takes a key off the register, whichever request it is registered for. -/
def unregister (p : Pool β) (key : ChunkKey) : Pool β :=
  { p with pending := p.pending.filter (·.key != key) }

/-- Takes a request off the register. The same key stays if it is registered for another request. -/
def release (p : Pool β) (task : Task) : Pool β :=
  { p with pending := p.pending.filter (· != task) }

/-! ## Tickets -/

/-- Withdraws a request. -/
def withdraw (p : Pool β) (ticket : Ticket) : Pool β :=
  { p with withdrawn := ticket :: p.withdrawn }

/-- Whether a request is withdrawn. -/
def isWithdrawn (p : Pool β) (ticket : Ticket) : Bool := p.withdrawn.contains ticket

/-! ## Tasks and results on their way -/

/-- One more task is in flight. -/
def enter (p : Pool β) : Pool β := { p with inFlight := p.inFlight + 1 }

/-- One task less is in flight. -/
def leave (p : Pool β) : Pool β := { p with inFlight := p.inFlight - 1 }

/-- Puts a task at the end of the queue, if there is room. -/
def enqueue? (p : Pool β) (task : Task) : Option (Pool β) :=
  if p.queue.length < p.queueCapacity then some { p with queue := p.queue ++ [task] } else none

/-- Takes the oldest task off the queue. -/
def dequeue? (p : Pool β) : Option (Task × Pool β) :=
  match p.queue with
  | [] => none
  | task :: rest => some (task, { p with queue := rest })

/-- Puts a result at the end of the results, if there is room. -/
def deliver? (p : Pool β) (result : TaskResult β) : Option (Pool β) :=
  if p.results.length < p.resultCapacity then some { p with results := p.results ++ [result] }
  else none

/-- Takes the oldest result off. -/
def take? (p : Pool β) : Option (TaskResult β × Pool β) :=
  match p.results with
  | [] => none
  | result :: rest => some (result, { p with results := rest })

end Pool

end Landform
