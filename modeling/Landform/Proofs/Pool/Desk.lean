import Landform.Pool.Client
import Landform.Pool.Worker
import Mathlib.Logic.Function.Iterate

/-! # A pool and its caller

A call on a pool takes several steps on the register, the count of tasks in flight, the queue, the
results and the tickets, and each of these steps is indivisible. The workers go on in between. A
desk is a pool with one caller, who makes one call after the other, and a list of moves says who
takes the next step. The ledger of the desk keeps what the caller has been told.

Without a worker in between, the steps of a call add up to the operation of that name. -/

namespace Landform.Pool

variable {β : Type}

/-! ## Calls -/

/-- What a caller can ask of a pool. -/
inductive Request where
  | submit (key : ChunkKey)
  | cancel (key : ChunkKey)
  /-- Asks for the next result. -/
  | recv
  /-- Asks for all results. -/
  | drain
  deriving DecidableEq, Repr

/-- How far a caller is with a call. -/
inductive Call (β : Type) where
  /-- There is no call. -/
  | ready
  | submitting (key : ChunkKey)
  /-- The key is registered. -/
  | registered (task : Task)
  /-- The task counts as in flight and has not been offered to the queue. -/
  | entered (task : Task)
  /-- The queue had no room. -/
  | refused (task : Task)
  /-- The task no longer counts as in flight, and its key is still registered. -/
  | left (task : Task)
  | cancelling (key : ChunkKey)
  /-- The task is off the register, and its ticket is not withdrawn yet. -/
  | unregistered (task : Task)
  /-- The caller is about to take a result off, or to return if there is none. -/
  | receiving (all : Bool)
  /-- The caller has a result and has not looked yet whether it is withdrawn. -/
  | taken (all : Bool) (result : TaskResult β)
  /-- The caller has a result that is not withdrawn, and its key is still registered. -/
  | claimed (all : Bool) (result : TaskResult β)

/-- The start of a call. -/
def Request.call : Request → Call β
  | submit key => .submitting key
  | cancel key => .cancelling key
  | recv => .receiving false
  | drain => .receiving true

/-- What the caller has been told. -/
structure Ledger (β : Type) where
  /-- The requests that were accepted. -/
  accepted : List Task
  /-- The requests for which a cancellation was successful. -/
  cancelled : List Task
  /-- The results that were received. -/
  delivered : List (TaskResult β)

namespace Ledger

/-- Nothing has been told. -/
def blank : Ledger β := ⟨[], [], []⟩

/-- A request has been accepted. -/
def accept (l : Ledger β) (task : Task) : Ledger β := { l with accepted := l.accepted ++ [task] }

/-- A request has been cancelled. -/
def cancel (l : Ledger β) (task : Task) : Ledger β := { l with cancelled := l.cancelled ++ [task] }

/-- A result has been received. -/
def deliver (l : Ledger β) (result : TaskResult β) : Ledger β :=
  { l with delivered := l.delivered ++ [result] }

/-- The requests whose results were received. -/
def received (l : Ledger β) : List Task := l.delivered.map (·.task)

section Entries

variable (l : Ledger β) (task : Task) (result : TaskResult β)

@[simp] theorem accepted_cancel : (l.cancel task).accepted = l.accepted := rfl

@[simp] theorem cancelled_cancel : (l.cancel task).cancelled = l.cancelled ++ [task] := rfl

@[simp] theorem received_cancel : (l.cancel task).received = l.received := rfl

@[simp] theorem received_deliver :
    (l.deliver result).received = l.received ++ [result.task] :=
  List.map_append

end Entries

end Ledger

/-! ## Moves -/

/-- A pool, how far its caller is, and what the caller has been told. -/
structure Desk (β : Type) where
  pool : Pool β
  call : Call β
  ledger : Ledger β

/-- Who takes the next step. -/
inductive Move where
  | worker (i : Nat)
  /-- The caller starts a call. -/
  | call (request : Request)
  /-- The caller goes on with the call. -/
  | proceed
  deriving DecidableEq, Repr

/-! ## A run

One key is requested, cancelled after a worker has taken it, and requested again. -/

/-- A key out of range. What is made for it is an error, at once. -/
def farKey : ChunkKey := ⟨Int32.maxValue, 0, 0, .overworld⟩

/-- A submission without a worker in between, if there is room in the queue. -/
def Move.submission (key : ChunkKey) : List Move :=
  [.call (.submit key), .proceed, .proceed, .proceed]

/-- A cancellation without a worker in between. -/
def Move.cancellation (key : ChunkKey) : List Move :=
  [.call (.cancel key), .proceed, .proceed]

/-- The cancelled request is with the worker, and the new one waits. -/
def Move.resubmission : List Move :=
  submission farKey ++ [.worker 0] ++ cancellation farKey ++ submission farKey

/-- The worker drops the cancelled request and serves the new one, and its result is received. -/
def Move.completion : List Move :=
  List.replicate 11 (.worker 0) ++ [.call .recv, .proceed, .proceed, .proceed]

namespace Desk

/-- The desk of a new pool. -/
def start (threads queueCapacity resultCapacity : Nat) : Desk β :=
  ⟨.create threads queueCapacity resultCapacity, .ready, .blank⟩

/-- The desk after the next step of the call. A caller who finds no result returns without one, at
once or after any wait. -/
def proceed (d : Desk β) : Desk β :=
  match d.call with
  | .ready => d
  | .submitting key =>
    match d.pool.register? key with
    | none => { d with call := .ready }
    | some (task, pool) => { d with pool, call := .registered task }
  | .registered task => { d with pool := d.pool.enter, call := .entered task }
  | .entered task =>
    match d.pool.enqueue? task with
    | none => { d with call := .refused task }
    | some pool => ⟨pool, .ready, d.ledger.accept task⟩
  | .refused task => { d with pool := d.pool.leave, call := .left task }
  | .left task => { d with pool := d.pool.unregister task.key, call := .ready }
  | .cancelling key =>
    match d.pool.registered? key with
    | none => { d with call := .ready }
    | some task => { d with pool := d.pool.unregister key, call := .unregistered task }
  | .unregistered task => ⟨d.pool.withdraw task.ticket, .ready, d.ledger.cancel task⟩
  | .receiving all =>
    match d.pool.take? with
    | none => { d with call := .ready }
    | some (result, pool) => { d with pool, call := .taken all result }
  | .taken all result =>
    { d with
      call := if d.pool.isWithdrawn result.task.ticket then .receiving all
        else .claimed all result }
  | .claimed all result =>
    ⟨d.pool.release result.task, if all then .receiving all else .ready,
      d.ledger.deliver result⟩

/-- Starts a call, unless there is one. -/
def begin (d : Desk β) (request : Request) : Desk β :=
  match d.call with
  | .ready => { d with call := request.call }
  | _ => d

/-- The desk after a move. A move that is not possible changes nothing. -/
def move (make : Maker β) (d : Desk β) : Move → Desk β
  | .worker i =>
    match d.pool.step? make i with
    | some pool => { d with pool }
    | none => d
  | .call request => d.begin request
  | .proceed => d.proceed

/-- The desk after a list of moves. -/
def play (make : Maker β) (d : Desk β) (moves : List Move) : Desk β := moves.foldl (move make) d

theorem play_append (make : Maker β) (d : Desk β) (before after : List Move) :
    d.play make (before ++ after) = (d.play make before).play make after :=
  List.foldl_append

/-! ## Steps of a call -/

section Steps

variable {p q : Pool β} {l : Ledger β} {key : ChunkKey} {task : Task} {r : TaskResult β}
  {all : Bool}

theorem proceed_submitting_none (h : p.register? key = none) :
    proceed ⟨p, .submitting key, l⟩ = ⟨p, .ready, l⟩ := by
  simp only [proceed, h]

theorem proceed_submitting_some (h : p.register? key = some (task, q)) :
    proceed ⟨p, .submitting key, l⟩ = ⟨q, .registered task, l⟩ := by
  simp only [proceed, h]

theorem proceed_entered_none (h : p.enqueue? task = none) :
    proceed ⟨p, .entered task, l⟩ = ⟨p, .refused task, l⟩ := by
  simp only [proceed, h]

theorem proceed_entered_some (h : p.enqueue? task = some q) :
    proceed ⟨p, .entered task, l⟩ = ⟨q, .ready, l.accept task⟩ := by
  simp only [proceed, h]

theorem proceed_cancelling_none (h : p.registered? key = none) :
    proceed ⟨p, .cancelling key, l⟩ = ⟨p, .ready, l⟩ := by
  simp only [proceed, h]

theorem proceed_cancelling_some (h : p.registered? key = some task) :
    proceed ⟨p, .cancelling key, l⟩ = ⟨p.unregister key, .unregistered task, l⟩ := by
  simp only [proceed, h]

theorem proceed_receiving_none (h : p.take? = none) :
    proceed ⟨p, .receiving all, l⟩ = ⟨p, .ready, l⟩ := by
  simp only [proceed, h]

theorem proceed_receiving_some (h : p.take? = some (r, q)) :
    proceed ⟨p, .receiving all, l⟩ = ⟨q, .taken all r, l⟩ := by
  simp only [proceed, h]

theorem proceed_taken_of_withdrawn (h : p.isWithdrawn r.task.ticket = true) :
    proceed ⟨p, .taken all r, l⟩ = ⟨p, .receiving all, l⟩ := by
  simp only [proceed, h, if_true]

theorem proceed_taken_of_not_withdrawn (h : p.isWithdrawn r.task.ticket = false) :
    proceed ⟨p, .taken all r, l⟩ = ⟨p, .claimed all r, l⟩ := by
  simp only [proceed, h, Bool.false_eq_true, if_false]

end Steps

/-! ## Calls without a worker in between -/

section Alone

variable (p : Pool β) (l : Ledger β)

theorem register?_task {p q : Pool β} {key : ChunkKey} {task : Task}
    (h : p.register? key = some (task, q)) : task = ⟨key, p.nextTicket⟩ := by
  unfold register? at h
  split at h
  · cases h
  · cases h
    rfl

/-- The steps of a submission add up to `submit`. -/
theorem proceed_submit (key : ChunkKey) :
    proceed^[5] ⟨p, .submitting key, l⟩ =
      ⟨(p.submit key).2, .ready,
        if (p.submit key).1.toBool then l.accept ⟨key, p.nextTicket⟩ else l⟩ := by
  unfold submit
  cases hregister : p.register? key with
  | none =>
    rw [Function.iterate_succ_apply, proceed_submitting_none hregister]
    rfl
  | some registered =>
    obtain ⟨task, q⟩ := registered
    rw [Function.iterate_succ_apply, proceed_submitting_some hregister,
      Function.iterate_succ_apply, Function.iterate_succ_apply]
    change proceed^[2] (proceed ⟨q.enter, .entered task, l⟩) = _
    cases hqueue : q.enter.enqueue? task with
    | none =>
      rw [proceed_entered_none hqueue]
      simp only [hqueue]
      rw [register?_task hregister]
      rfl
    | some q' =>
      rw [proceed_entered_some hqueue]
      simp only [hqueue]
      rw [register?_task hregister]
      rfl

/-- The steps of a cancellation add up to `cancel`. -/
theorem proceed_cancel (key : ChunkKey) :
    proceed^[2] ⟨p, .cancelling key, l⟩ =
      ⟨(p.cancel key).2, .ready, (p.registered? key).elim l l.cancel⟩ := by
  unfold Pool.cancel
  cases hregistered : p.registered? key with
  | none =>
    rw [Function.iterate_succ_apply, proceed_cancelling_none hregistered]
    rfl
  | some task =>
    rw [Function.iterate_succ_apply, proceed_cancelling_some hregistered]
    rfl

/-- One round of receiving: the oldest result is taken off and either dropped or received. -/
theorem proceed_receive (all : Bool) :
    (p.receive? = none ∧ p.results = [] ∧
      proceed ⟨p, .receiving all, l⟩ = ⟨p, .ready, l⟩) ∨
    (∃ q, p.receive? = some (none, q) ∧ p.results.length = q.results.length + 1 ∧
      proceed^[2] ⟨p, .receiving all, l⟩ = ⟨q, .receiving all, l⟩) ∨
    (∃ r q, p.receive? = some (some r, q) ∧ p.results.length = q.results.length + 1 ∧
      proceed^[3] ⟨p, .receiving all, l⟩ =
        ⟨q, if all then .receiving all else .ready, l.deliver r⟩) := by
  cases hresults : p.results with
  | nil =>
    have htake : p.take? = none := by simp only [take?, hresults]
    refine .inl ⟨?_, rfl, proceed_receiving_none htake⟩
    simp only [receive?, htake, Option.map_none]
  | cons r rest =>
    have htake : p.take? = some (r, { p with results := rest }) := by
      simp only [take?, hresults]
    cases hw : p.isWithdrawn r.task.ticket with
    | true =>
      have hw' : isWithdrawn { p with results := rest } r.task.ticket = true := hw
      refine .inr (.inl ⟨{ p with results := rest }, ?_, rfl, ?_⟩)
      · simp only [receive?, htake, Option.map_some, finish, hw', if_true]
      · rw [Function.iterate_succ_apply, proceed_receiving_some htake]
        exact proceed_taken_of_withdrawn hw'
    | false =>
      have hw' : isWithdrawn { p with results := rest } r.task.ticket = false := hw
      refine .inr (.inr ⟨r, release { p with results := rest } r.task, ?_, rfl, ?_⟩)
      · simp only [receive?, htake, Option.map_some, finish, hw', Bool.false_eq_true, if_false]
      · rw [Function.iterate_succ_apply, proceed_receiving_some htake,
          Function.iterate_succ_apply, proceed_taken_of_not_withdrawn hw']
        rfl

theorem proceed_recvWithin (count : Nat) (h : p.results.length ≤ count) :
    ∃ n, proceed^[n] ⟨p, .receiving false, l⟩ =
      ⟨(recvWithin count p).2, .ready, (recvWithin count p).1.elim l l.deliver⟩ := by
  induction count generalizing p with
  | zero =>
    have hnil : p.results = [] := List.length_eq_zero_iff.mp (Nat.le_zero.mp h)
    exact ⟨1, proceed_receiving_none (by simp only [take?, hnil])⟩
  | succ count ih =>
    obtain ⟨hr, -, hstep⟩ | ⟨q, hr, hlen, hstep⟩ | ⟨r, q, hr, -, hstep⟩ :=
      proceed_receive p l false
    · refine ⟨1, ?_⟩
      simp only [recvWithin, hr]
      exact hstep
    · obtain ⟨n, hn⟩ := ih q (by omega)
      refine ⟨n + 2, ?_⟩
      rw [Function.iterate_add_apply, hstep, hn]
      simp only [recvWithin, hr]
    · refine ⟨3, ?_⟩
      simp only [recvWithin, hr]
      exact hstep

theorem proceed_drainWithin (count : Nat) (h : p.results.length ≤ count) :
    ∃ n, proceed^[n] ⟨p, .receiving true, l⟩ =
      ⟨(drainWithin count p).2, .ready, (drainWithin count p).1.foldl .deliver l⟩ := by
  induction count generalizing p l with
  | zero =>
    have hnil : p.results = [] := List.length_eq_zero_iff.mp (Nat.le_zero.mp h)
    exact ⟨1, proceed_receiving_none (by simp only [take?, hnil])⟩
  | succ count ih =>
    obtain ⟨hr, -, hstep⟩ | ⟨q, hr, hlen, hstep⟩ | ⟨r, q, hr, hlen, hstep⟩ :=
      proceed_receive p l true
    · refine ⟨1, ?_⟩
      simp only [drainWithin, hr]
      exact hstep
    · obtain ⟨n, hn⟩ := ih q l (by omega)
      refine ⟨n + 2, ?_⟩
      rw [Function.iterate_add_apply, hstep, hn]
      simp only [drainWithin, hr]
      rfl
    · obtain ⟨n, hn⟩ := ih q (l.deliver r) (by omega)
      refine ⟨n + 3, ?_⟩
      rw [Function.iterate_add_apply, hstep]
      simp only [if_true]
      rw [hn]
      simp only [drainWithin, hr]
      rfl

/-- The steps of a call for the next result add up to `recv`. -/
theorem proceed_recv :
    ∃ n, proceed^[n] ⟨p, .receiving false, l⟩ =
      ⟨p.recv.2, .ready, p.recv.1.elim l l.deliver⟩ :=
  proceed_recvWithin p l p.results.length (Nat.le_refl _)

/-- The steps of a call for all results add up to `drain`. -/
theorem proceed_drain :
    ∃ n, proceed^[n] ⟨p, .receiving true, l⟩ =
      ⟨p.drain.2, .ready, p.drain.1.foldl .deliver l⟩ :=
  proceed_drainWithin p l p.results.length (Nat.le_refl _)

end Alone

end Desk

end Landform.Pool
