import Landform.Batch.Basic
import Landform.Proofs.Pool.Rest

/-! # A batch among workers

A batch is the caller of its pool. It makes one call after the other, each call takes several steps,
and the workers go on in between. An errand is a batch at a desk, with what it has reported so far.
A caller who waits for a result stays where it is until there is one.

Without a worker in between, the steps of an errand add up to those of the batch. -/

namespace Landform

open Pool

/-! ## Calls of a batch -/

namespace Batch

/-- The next call. There is none when the batch is done. -/
def request? (b : Batch) : Option Request :=
  match b.todo, b.held with
  | key :: _, false => some (.submit key)
  | [], false => if b.owed = 0 then none else some .recv
  | _, true => some .recv

/-- What a batch notes down when its call goes on, and what it reports. A submission ends with the
key skipped, accepted or refused, and a wait ends with a result. -/
def note (b : Batch) : (before after : Call Chunk) → Batch × Option Event
  | .submitting key, .ready =>
    ({ b with todo := b.todo.tail, owed := b.owed - 1 }, some (.skipped (.alreadyPending key)))
  | .entered _, .ready => ({ b with todo := b.todo.tail }, none)
  | .left _, .ready => ({ b with held := true }, none)
  | .claimed _ result, .ready => (b.withResult result, some (.ofResult result))
  | _, _ => (b, none)

section WithResult

variable (b : Batch) (r : TaskResult Chunk)

@[simp] theorem withResult_pool : (b.withResult r).pool = b.pool := by
  unfold withResult
  cases r.outcome <;> rfl

@[simp] theorem withResult_todo : (b.withResult r).todo = b.todo := by
  unfold withResult
  cases r.outcome <;> rfl

@[simp] theorem withResult_owed : (b.withResult r).owed = b.owed - 1 := by
  unfold withResult
  cases r.outcome <;> rfl

@[simp] theorem withResult_held : (b.withResult r).held = false := by
  unfold withResult
  cases r.outcome <;> rfl

@[simp] theorem withResult_generated :
    (b.withResult r).generated = b.generated + [r].countP (·.outcome.toBool) := by
  unfold withResult
  cases h : r.outcome <;> simp only [List.countP_singleton, h] <;> rfl

@[simp] theorem withResult_failures :
    (b.withResult r).failures = b.failures + [r].countP (!·.outcome.toBool) := by
  unfold withResult
  cases h : r.outcome <;> simp only [List.countP_singleton, h] <;> rfl

end WithResult

theorem note_pool (b : Batch) (before after : Call Chunk) :
    (b.note before after).1.pool = b.pool := by
  unfold note
  split
  · rfl
  · rfl
  · rfl
  · exact withResult_pool ..
  · rfl

theorem note_self (b : Batch) (call : Call Chunk) : b.note call call = (b, none) := by
  cases call <;> rfl

end Batch

/-! ## Errands -/

/-- A batch with the call that it is at and what it has been told. -/
structure Errand where
  batch : Batch
  call : Call Chunk
  ledger : Ledger Chunk
  /-- What the batch has reported, the latest event first. -/
  log : List Event

namespace Errand

/-- The errand of a batch before its first call. -/
def start (pool : Pool Chunk) (keys : List ChunkKey) : Errand :=
  ⟨.start pool keys, .ready, .blank, []⟩

/-- Where the batch is a caller. -/
def desk (e : Errand) : Desk Chunk := ⟨e.batch.pool, e.call, e.ledger⟩

/-- Whether the batch has returned. -/
def isOver (e : Errand) : Bool :=
  match e.call with
  | .ready => e.batch.isDone
  | _ => false

/-- The errand after a step at its desk. -/
def follow (e : Errand) (d : Desk Chunk) : Errand where
  batch := ({ e.batch with pool := d.pool }.note e.call d.call).1
  call := d.call
  ledger := d.ledger
  log := ({ e.batch with pool := d.pool }.note e.call d.call).2.toList ++ e.log

/-- The errand after the next step of the batch. It stays where it is if the batch is done, and
while it waits for a result. -/
def advance (e : Errand) : Errand :=
  match e.call with
  | .ready =>
    match e.batch.request? with
    | some request => { e with call := request.call }
    | none => e
  | .receiving _ => if e.batch.pool.results.isEmpty then e else e.follow e.desk.proceed
  | _ => e.follow e.desk.proceed

/-- Who takes the next step. -/
inductive Move where
  | worker (i : Nat)
  | batch

/-- The errand after a move. A worker that cannot go on changes nothing. -/
def move (make : Maker Chunk) (e : Errand) : Move → Errand
  | .worker i =>
    match e.batch.pool.step? make i with
    | some pool => { e with batch := { e.batch with pool } }
    | none => e
  | .batch => e.advance

/-- The errand after a list of moves. -/
def play (make : Maker Chunk) (e : Errand) (moves : List Move) : Errand :=
  moves.foldl (move make) e

theorem play_append (make : Maker Chunk) (e : Errand) (before after : List Move) :
    e.play make (before ++ after) = (e.play make before).play make after :=
  List.foldl_append

theorem follow_desk (e : Errand) : e.follow e.desk = e := by
  unfold follow desk
  rw [Batch.note_self]
  rfl

theorem desk_follow (e : Errand) (d : Desk Chunk) : (e.follow d).desk = d := by
  unfold follow desk
  rw [Batch.note_pool]

/-! ## Errands at a desk -/

/-- What a step of the batch depends on besides its desk: it begins only the call that is next, and
it does not give up waiting. -/
def Permits (e : Errand) (d : Desk Chunk) : Prop :=
  match e.call with
  | .ready => ∃ request, e.batch.request? = some request ∧ d.call = request.call
  | .receiving _ => e.batch.pool.results ≠ []
  | _ => True

/-- A move changes nothing, or a worker takes a step, or the batch does. -/
theorem move_cases (make : Maker Chunk) (e : Errand) (m : Move) :
    e.move make m = e ∨
    (∃ i pool, e.batch.pool.step? make i = some pool ∧
      e.move make m = { e with batch := { e.batch with pool } }) ∨
    ∃ d, Desk.Step make e.desk d ∧ e.Permits d ∧ e.move make m = e.follow d := by
  cases m with
  | worker i =>
    cases hstep : e.batch.pool.step? make i with
    | none => exact .inl (by simp only [move, hstep])
    | some pool => exact .inr (.inl ⟨i, pool, hstep, by simp only [move, hstep]⟩)
  | batch =>
    have hproceed : e.Permits e.desk.proceed → e.follow e.desk.proceed = e ∨
        ∃ d, Desk.Step make e.desk d ∧ e.Permits d ∧ e.follow e.desk.proceed = e.follow d := by
      intro hpermits
      rcases Desk.proceed_step make e.desk with hsame | hstep
      · rw [hsame]
        exact .inl e.follow_desk
      · exact .inr ⟨_, hstep, hpermits, rfl⟩
    obtain ⟨b, call, l, log⟩ := e
    rw [or_left_comm]
    refine .inr ?_
    cases call with
    | ready =>
      cases hr : b.request? with
      | none => exact .inl (by simp only [move, advance, hr])
      | some request =>
        refine .inr ⟨⟨b.pool, request.call, l⟩, .begin request, ⟨request, hr, rfl⟩, ?_⟩
        simp only [move, advance, hr]
        cases request <;> rfl
    | receiving all =>
      by_cases hempty : b.pool.results.isEmpty = true
      · exact .inl (if_pos hempty)
      · simp only [move, advance, if_neg hempty]
        exact hproceed fun hnil => hempty (List.isEmpty_iff.mpr hnil)
    | _ => exact hproceed trivial

theorem desk_worker {make : Maker Chunk} {e : Errand} {i : Nat} {pool : Pool Chunk}
    (h : e.batch.pool.step? make i = some pool) :
    Desk.Step make e.desk (desk { e with batch := { e.batch with pool } }) := by
  obtain ⟨before, a, after, b, p', hworkers, hturn, rfl⟩ := step?_eq_some h
  exact .worker hworkers hturn

/-- At the desk, a move changes nothing or is a step. -/
theorem desk_move (make : Maker Chunk) (e : Errand) (m : Move) :
    (e.move make m).desk = e.desk ∨ Desk.Step make e.desk (e.move make m).desk := by
  rcases e.move_cases make m with hsame | ⟨i, pool, hstep, hmove⟩ | ⟨d, hstep, -, hmove⟩
  · rw [hsame]
    exact .inl rfl
  · rw [hmove]
    exact .inr (desk_worker hstep)
  · rw [hmove, desk_follow]
    exact .inr hstep

/-- What every move keeps holds throughout a run. -/
theorem play_invariant {make : Maker Chunk} {motive : Errand → Prop}
    (move : ∀ {e : Errand} (m : Move), motive e → motive (e.move make m)) {e : Errand}
    (h : motive e) (moves : List Move) : motive (e.play make moves) := by
  induction moves generalizing e with
  | nil => exact h
  | cons m moves ih => exact ih (move m h)

/-- What every step at a desk keeps holds at the desk of a batch. -/
theorem desk_invariant {make : Maker Chunk} {motive : Desk Chunk → Prop}
    (step : ∀ {d d' : Desk Chunk}, Desk.Step make d d' → motive d → motive d') {e : Errand}
    (h : motive e.desk) (moves : List Move) : motive (e.play make moves).desk := by
  refine play_invariant (motive := fun e => motive e.desk) (fun {e} m he => ?_) h moves
  rcases e.desk_move make m with hsame | hstep
  · rw [hsame]
    exact he
  · exact step hstep he

/-- The workers can come to rest before the batch goes on. -/
theorem exists_play_settle (make : Maker Chunk) (e : Errand) :
    ∃ moves, e.play make moves =
      { e with batch := { e.batch with pool := e.batch.pool.settle make } } := by
  refine settle_invariant (motive := fun pool =>
    ∃ moves, e.play make moves = { e with batch := { e.batch with pool } }) ?_ ⟨[], rfl⟩
  rintro p q i hstep ⟨moves, hmoves⟩
  refine ⟨moves ++ [.worker i], ?_⟩
  rw [play_append, hmoves]
  simp only [play, List.foldl_cons, List.foldl_nil, move, hstep]

end Errand

end Landform
