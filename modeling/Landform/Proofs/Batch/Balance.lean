import Landform.Proofs.Batch.Errand
import Landform.Proofs.Pool.Delivery

/-! # The balance of a batch

Every key of a batch is still to be submitted, or was accepted or skipped, and what the batch is
owed are the results of all that was not skipped. A batch that waits has been refused by a full
queue or has submitted everything, and both mean that a request is without its result. So the batch
never waits in vain, and when it returns every key has its result or was skipped. -/

namespace Landform

open Pool

/-! ## Calls and events -/

/-- The key that was skipped. -/
def Event.skippedKey? : Event → Option ChunkKey
  | skipped (.alreadyPending key) => some key
  | _ => none

theorem Event.skippedKey?_ofResult (r : TaskResult Chunk) :
    (Event.ofResult r).skippedKey? = none := by
  unfold ofResult
  cases r.outcome <;> rfl

/-- Whether a submission has found the queue full. -/
def Pool.Call.isRefused {β : Type} : Call β → Bool
  | refused _ | left _ => true
  | _ => false

/-- Whether a batch can be at this call: it submits the first key, unless the queue was full, and
waits if it was, or if there are results to come and all keys are submitted. -/
def Batch.Makes (b : Batch) : Call Chunk → Prop
  | .ready => True
  | .submitting key => b.held = false ∧ b.todo.head? = some key
  | .registered task | .entered task | .refused task | .left task =>
    b.held = false ∧ b.todo.head? = some task.key
  | .receiving all | .taken all _ | .claimed all _ =>
    all = false ∧ (b.held = true ∨ b.todo = [] ∧ b.owed ≠ 0)
  | .cancelling _ | .unregistered _ => False

theorem Batch.makes_request {b : Batch} {request : Request} (h : b.request? = some request) :
    b.Makes request.call := by
  unfold request? at h
  split at h
  · rename_i key rest htodo hheld
    cases h
    exact ⟨hheld, by rw [htodo]; rfl⟩
  · rename_i htodo hheld
    split at h
    · cases h
    · rename_i howed
      cases h
      exact ⟨rfl, .inr ⟨htodo, howed⟩⟩
  · rename_i hheld
    cases h
    exact ⟨rfl, .inl hheld⟩

namespace Errand

/-- The keys that were skipped. -/
def skipped (e : Errand) : List ChunkKey := e.log.filterMap Event.skippedKey?

/-! ## The balance -/

/-- What a batch keeps in balance. -/
structure Balanced (keys : List ChunkKey) (e : Errand) : Prop where
  call : e.batch.Makes e.call
  cancelled : e.ledger.cancelled = []
  placed : (e.ledger.accepted.map (·.key) ++ e.skipped ++ e.batch.todo).Perm keys
  owed : e.batch.owed + e.ledger.delivered.length + e.skipped.length = keys.length
  held : e.batch.held = true ∨ e.call.isRefused = true →
    e.ledger.delivered.length < e.ledger.accepted.length
  generated : e.batch.generated = e.ledger.delivered.countP (·.outcome.toBool)
  failures : e.batch.failures = e.ledger.delivered.countP (!·.outcome.toBool)

theorem start_balanced (pool : Pool Chunk) (keys : List ChunkKey) :
    (start pool keys).Balanced keys where
  call := trivial
  cancelled := rfl
  placed := .refl _
  owed := rfl
  held := by rintro (h | h) <;> cases h
  generated := rfl
  failures := rfl

theorem Balanced.withPool {keys : List ChunkKey} {e : Errand} (h : e.Balanced keys)
    (pool : Pool Chunk) : Balanced keys { e with batch := { e.batch with pool } } :=
  ⟨h.call, h.cancelled, h.placed, h.owed, h.held, h.generated, h.failures⟩

/-- What is received and what is owed add up to what is accepted and what is still to be
submitted. -/
theorem Balanced.owed_add {keys : List ChunkKey} {e : Errand} (h : e.Balanced keys) :
    e.batch.owed + e.ledger.delivered.length = e.ledger.accepted.length + e.batch.todo.length := by
  have hlength := h.placed.length_eq
  simp only [List.length_append, List.length_map] at hlength
  have howed := h.owed
  omega

section Steps

variable {keys : List ChunkKey} {b : Batch} {l : Ledger Chunk} {log : List Event}

/-! ## Steps of a batch -/

theorem Balanced.ask {request : Request} (h : Balanced keys ⟨b, .ready, l, log⟩)
    (hrequest : b.request? = some request) : Balanced keys ⟨b, request.call, l, log⟩ := by
  refine ⟨Batch.makes_request hrequest, h.cancelled, h.placed, h.owed, ?_, h.generated, h.failures⟩
  rintro (hb | hrefused)
  · exact h.held (.inl hb)
  · cases request <;> cases hrefused

/-- The first key to be submitted finds its place. -/
theorem placed_of_first {accepted skipped todo : List ChunkKey} {key : ChunkKey}
    (h : (accepted ++ skipped ++ key :: todo).Perm keys) :
    (accepted ++ (key :: skipped) ++ todo).Perm keys := by
  rw [List.append_assoc] at h ⊢
  exact (List.perm_middle.symm.append_left _).trans h

theorem Balanced.skip {key : ChunkKey} (h : Balanced keys ⟨b, .submitting key, l, log⟩)
    (hle : l.delivered.length ≤ l.accepted.length) :
    Balanced keys ⟨{ b with todo := b.todo.tail, owed := b.owed - 1 }, .ready, l,
      .skipped (.alreadyPending key) :: log⟩ := by
  obtain ⟨hheld, hfirst⟩ := h.call
  obtain ⟨rest, htodo⟩ : ∃ rest, b.todo = key :: rest := List.head?_eq_some_iff.mp hfirst
  have hplaced : (l.accepted.map (·.key) ++ log.filterMap Event.skippedKey? ++ b.todo).Perm keys :=
    h.placed
  have howed : b.owed + l.delivered.length + (log.filterMap Event.skippedKey?).length =
    keys.length := h.owed
  have hsum : b.owed + l.delivered.length = l.accepted.length + b.todo.length := h.owed_add
  rw [htodo] at hplaced
  rw [htodo, List.length_cons] at hsum
  refine ⟨trivial, h.cancelled, ?_, ?_, ?_, h.generated, h.failures⟩
  · change (l.accepted.map (·.key) ++ (key :: log.filterMap Event.skippedKey?) ++
      b.todo.tail).Perm keys
    rw [htodo]
    exact placed_of_first hplaced
  · -- A key that is still to be submitted is owed.
    change b.owed - 1 + l.delivered.length + ((log.filterMap Event.skippedKey?).length + 1) =
      keys.length
    omega
  · rintro (hb | hrefused)
    · exact absurd (hheld.symm.trans hb) Bool.false_ne_true
    · cases hrefused

theorem Balanced.accept {task : Task} (h : Balanced keys ⟨b, .entered task, l, log⟩) :
    Balanced keys ⟨{ b with todo := b.todo.tail }, .ready, l.accept task, log⟩ := by
  obtain ⟨hheld, hfirst⟩ := h.call
  obtain ⟨rest, htodo⟩ : ∃ rest, b.todo = task.key :: rest := List.head?_eq_some_iff.mp hfirst
  have hplaced : (l.accepted.map (·.key) ++ log.filterMap Event.skippedKey? ++ b.todo).Perm keys :=
    h.placed
  rw [htodo] at hplaced
  refine ⟨trivial, h.cancelled, ?_, h.owed, ?_, h.generated, h.failures⟩
  · change ((l.accepted ++ [task]).map (·.key) ++ log.filterMap Event.skippedKey? ++
      b.todo.tail).Perm keys
    rw [htodo, List.map_append, List.append_assoc (l.accepted.map (·.key))]
    exact placed_of_first hplaced
  · rintro (hb | hrefused)
    · exact absurd (hheld.symm.trans hb) Bool.false_ne_true
    · cases hrefused

theorem Balanced.receive {all : Bool} {r : TaskResult Chunk}
    (h : Balanced keys ⟨b, .claimed all r, l, log⟩)
    (hlt : l.delivered.length < l.accepted.length) :
    Balanced keys ⟨b.withResult r, .ready, l.deliver r, .ofResult r :: log⟩ := by
  have howed : b.owed + l.delivered.length + (log.filterMap Event.skippedKey?).length =
    keys.length := h.owed
  have hsum : b.owed + l.delivered.length = l.accepted.length + b.todo.length := h.owed_add
  have hlog : skipped ⟨b.withResult r, .ready, l.deliver r, .ofResult r :: log⟩ =
      log.filterMap Event.skippedKey? :=
    List.filterMap_cons_none (Event.skippedKey?_ofResult r)
  refine ⟨trivial, h.cancelled, ?_, ?_, ?_, ?_, ?_⟩
  · simp only [hlog, Batch.withResult_todo]
    exact h.placed
  · rw [hlog]
    simp only [Batch.withResult_owed, Ledger.deliver, List.length_append, List.length_singleton]
    omega
  · rintro (hb | hrefused)
    · simp only [Batch.withResult_held, Bool.false_eq_true] at hb
    · cases hrefused
  · simp only [Batch.withResult_generated, Ledger.deliver, List.countP_append]
    rw [← h.generated]
  · simp only [Batch.withResult_failures, Ledger.deliver, List.countP_append]
    rw [← h.failures]

end Steps

/-- The places of the accepted requests, in numbers. -/
theorem length_le_accepted {d : Desk Chunk} (h : d.Sound) :
    d.pool.underWay.length + d.call.held.length + d.ledger.delivered.length ≤
      d.ledger.accepted.length := by
  obtain ⟨lost, hperm, -⟩ := h.traced
  have hlength := hperm.length_eq
  simp only [List.length_append, Ledger.received, List.length_map] at hlength
  omega

theorem Balanced.follow {make : Maker Chunk} {keys : List ChunkKey} {e : Errand} {d : Desk Chunk}
    (h : e.Balanced keys) (hsound : e.desk.Sound) (hable : e.batch.pool.Able)
    (hstep : Desk.Step make e.desk d) (hpermits : e.Permits d) : (e.follow d).Balanced keys := by
  obtain ⟨b, call, l, log⟩ := e
  have hplaces : b.pool.underWay.length + call.held.length + l.delivered.length ≤
    l.accepted.length := length_le_accepted hsound
  obtain ⟨hcall, hcancelled, hplaced, howed, hheld, hgenerated, hfailures⟩ := id h
  cases hstep with
  | worker hworkers hturn =>
    simp only [Errand.follow, Batch.note_self]
    exact h.withPool _
  | begin request =>
    obtain ⟨next, hnext, hsame⟩ := hpermits
    change request.call = next.call at hsame
    have hnext := h.ask hnext
    rw [← hsame] at hnext
    cases request <;> exact hnext
  | alreadyPending _ => exact h.skip (by omega)
  | enqueue _ => exact (h.withPool _).accept
  | queueFull hfull =>
    refine ⟨hcall, hcancelled, hplaced, howed, fun _ => ?_, hgenerated, hfailures⟩
    -- The tasks in the queue are without results.
    have hcapacity : 0 < b.pool.queueCapacity := hable.queue
    change ¬b.pool.queue.length < b.pool.queueCapacity at hfull
    change l.delivered.length < l.accepted.length
    simp only [underWay, List.length_append] at hplaces
    omega
  | unregister =>
    exact ⟨trivial, hcancelled, hplaced, howed, fun _ => hheld (.inr rfl), hgenerated, hfailures⟩
  | notPending _ => exact hcall.elim
  | takeOff _ => exact hcall.elim
  | withdraw => exact hcall.elim
  | giveUp hnone => exact absurd hnone hpermits
  | @release p l all result =>
    obtain rfl : all = false := hcall.1
    change b.pool.underWay.length + 1 + l.delivered.length ≤ l.accepted.length at hplaces
    have hlt : l.delivered.length < l.accepted.length := by omega
    exact (h.withPool _).receive hlt
  -- The other steps only move the call on.
  | _ => exact ⟨hcall, hcancelled, hplaced, howed, hheld, hgenerated, hfailures⟩

/-! ## Runs of a batch -/

/-- What is kept throughout a run of a batch. -/
structure Kept (keys : List ChunkKey) (e : Errand) : Prop where
  sound : e.desk.Sound
  able : e.batch.pool.Able
  balanced : e.Balanced keys

section Kept

variable {make : Maker Chunk} {keys : List ChunkKey} {e : Errand}

theorem Kept.move (honest : make.Truthful) (m : Move) (h : e.Kept keys) :
    (e.move make m).Kept keys where
  sound := by
    rcases e.desk_move make m with hsame | hstep
    · rw [hsame]
      exact h.sound
    · exact hstep.sound honest h.sound
  able := by
    change (e.move make m).desk.pool.Able
    rcases e.desk_move make m with hsame | hstep
    · rw [hsame]
      exact h.able
    · exact hstep.able h.able
  balanced := by
    rcases e.move_cases make m with hsame | ⟨i, pool, hstep, hmove⟩ | ⟨d, hstep, hpermits, hmove⟩
    · rw [hsame]
      exact h.balanced
    · rw [hmove]
      exact h.balanced.withPool pool
    · rw [hmove]
      exact h.balanced.follow h.sound h.able hstep hpermits

theorem start_kept (threads queueCapacity resultCapacity : Nat) (keys : List ChunkKey) :
    (start (.create threads queueCapacity resultCapacity) keys).Kept keys where
  sound := Desk.start_sound ..
  able := create_able ..
  balanced := start_balanced ..

theorem Kept.play (honest : make.Truthful) (h : e.Kept keys) (moves : List Move) :
    (e.play make moves).Kept keys :=
  play_invariant (Kept.move honest) h moves

theorem Kept.settle (honest : make.Truthful) (h : e.Kept keys) :
    Kept keys { e with batch := { e.batch with pool := e.batch.pool.settle make } } := by
  obtain ⟨moves, hmoves⟩ := exists_play_settle make e
  rw [← hmoves]
  exact h.play honest moves

/-! ## Waiting -/

/-- A batch that waits is owed the result of an accepted request. -/
theorem Balanced.waiting (h : e.Balanced keys) {all : Bool} (hcall : e.call = .receiving all) :
    e.ledger.delivered.length < e.ledger.accepted.length := by
  have hmakes := h.call
  rw [hcall] at hmakes
  rcases hmakes.2 with hheld | ⟨htodo, howed⟩
  · exact h.held (.inl hheld)
  · have hsum := h.owed_add
    rw [htodo, List.length_nil] at hsum
    omega

theorem Kept.underWay (h : e.Kept keys) {all : Bool} (hcall : e.call = .receiving all) :
    e.batch.pool.underWay ≠ [] := by
  obtain ⟨task, haccepted, hreceived⟩ := h.sound.exists_outstanding (h.balanced.waiting hcall)
  refine h.sound.underWay_ne_nil ?_ haccepted hreceived ?_
  · change e.call.task? ≠ some task
    rw [hcall]
    exact nofun
  · change task ∉ e.ledger.cancelled
    rw [h.balanced.cancelled]
    exact List.not_mem_nil

/-- Where a batch waits and the workers have come to rest, there is a result. -/
theorem Kept.results_of_quiet (h : e.Kept keys) (hquiet : e.batch.pool.Quiet make) {all : Bool}
    (hcall : e.call = .receiving all) : e.batch.pool.results ≠ [] :=
  hquiet.results_ne_nil h.able (h.underWay hcall)

/-- A batch that is over has received everything, and nothing is pending. -/
theorem Kept.received_all (h : e.Kept keys) (hover : e.isOver = true) :
    e.batch.todo = [] ∧ e.batch.owed = 0 ∧ e.batch.pool.pending = [] ∧
      e.ledger.accepted.Perm e.ledger.received := by
  have hsum := h.balanced.owed_add
  have hcancelled := h.balanced.cancelled
  have hstates := h.sound.recorded
  obtain ⟨b, call, l, log⟩ := e
  cases call with
  | ready =>
    have hdone : (b.todo.isEmpty && !b.held && b.owed == 0) = true := hover
    simp only [Bool.and_eq_true, List.isEmpty_iff, beq_iff_eq] at hdone
    obtain ⟨⟨htodo, -⟩, howed⟩ := hdone
    change b.owed + l.delivered.length = l.accepted.length + b.todo.length at hsum
    change (l.accepted ++ []).Perm (b.pool.pending ++ [] ++ l.received ++ l.cancelled) at hstates
    change l.cancelled = [] at hcancelled
    rw [hcancelled, List.append_nil, List.append_nil, List.append_nil] at hstates
    rw [htodo, howed, List.length_nil] at hsum
    -- As many requests are received as were accepted, so none is left to be registered.
    have hpending : b.pool.pending = [] := by
      have hlength := hstates.length_eq
      rw [List.length_append, Ledger.received, List.length_map] at hlength
      exact List.length_eq_zero_iff.mp (by omega)
    rw [hpending] at hstates
    exact ⟨htodo, howed, hpending, hstates⟩
  | _ => cases hover

/-- A batch that is over has generated, failed or skipped every key. -/
theorem Kept.total (h : e.Kept keys) (hover : e.isOver = true) :
    e.batch.generated + e.batch.failures + e.skipped.length = keys.length := by
  obtain ⟨-, hzero, -, -⟩ := h.received_all hover
  have howed := h.balanced.owed
  have hall := List.length_eq_countP_add_countP (·.outcome.toBool) (l := e.ledger.delivered)
  simp only [Bool.not_eq_true, Bool.decide_eq_false] at hall
  rw [h.balanced.generated, h.balanced.failures, ← hall]
  omega

/-- A batch that is over has received the results of all keys that were not skipped. -/
theorem Kept.received_perm (h : e.Kept keys) (hover : e.isOver = true) :
    (e.ledger.received.map (·.key) ++ e.skipped).Perm keys := by
  obtain ⟨htodo, -, -, hperm⟩ := h.received_all hover
  have hplaced := h.balanced.placed
  rw [htodo, List.append_nil] at hplaced
  exact ((hperm.map _).symm.append_right _).trans hplaced

theorem Kept.isPending_eq_false (h : e.Kept keys) (hover : e.isOver = true) (key : ChunkKey) :
    e.batch.pool.isPending key = false := by
  obtain ⟨-, -, hpending, -⟩ := h.received_all hover
  simp only [isPending, registered?, hpending, List.find?_nil, Option.isSome_none]

end Kept

/-- In every run of a batch on a new pool, with any keys, workers and room, and whatever the workers
do in between: while the batch waits, there is a result or some worker can go on, some accepted
request is without its result, and a result is there once the workers have done all they can; what
has been received or skipped and what is still owed add up to the keys; and when the batch is over,
every key is generated, failed or skipped, every accepted request has been received once, and no key
is pending. -/
theorem never_stuck (g : Generator) (schedule : Schedule)
    (threads queueCapacity resultCapacity : Nat) (keys : List ChunkKey) (moves : List Move) :
    let e : Errand :=
      (start (.create threads queueCapacity resultCapacity) keys).play (g.maker schedule) moves
    (∀ all, e.call = .receiving all →
      (e.batch.pool.results ≠ [] ∨
        ∃ i, (e.batch.pool.step? (g.maker schedule) i).isSome = true) ∧
      (∃ task ∈ e.ledger.accepted, task ∉ e.ledger.received) ∧
      (e.batch.pool.settle (g.maker schedule)).results ≠ []) ∧
    e.batch.owed + (e.ledger.received.length + e.skipped.length) = keys.length ∧
    (e.isOver = true →
      e.batch.generated + e.batch.failures + e.skipped.length = keys.length ∧
      (e.ledger.received.map (·.key) ++ e.skipped).Perm keys ∧
      (∀ task ∈ e.ledger.accepted, e.ledger.received.count task = 1) ∧
      ∀ key, e.batch.pool.isPending key = false) := by
  have honest := g.maker_truthful schedule
  intro e
  have h : e.Kept keys := (start_kept threads queueCapacity resultCapacity keys).play honest moves
  have howed := h.balanced.owed
  have hreceived : e.ledger.received.length = e.ledger.delivered.length := List.length_map ..
  refine ⟨?_, by omega, ?_⟩
  · intro all hcall
    refine ⟨?_, h.sound.exists_outstanding (h.balanced.waiting hcall), ?_⟩
    · by_cases hresults : e.batch.pool.results = []
      · exact .inr (h.able.exists_step hresults (h.underWay hcall))
      · exact .inl hresults
    · exact (h.settle honest).results_of_quiet (settle_quiet _) hcall
  · intro hover
    obtain ⟨-, -, -, hperm⟩ := h.received_all hover
    refine ⟨h.total hover, h.received_perm hover, ?_, h.isPending_eq_false hover⟩
    intro task htask
    exact List.count_eq_one_of_mem h.sound.received_nodup (hperm.subset htask)

/-! ## A run with a duplicate -/

/-- A key out of range, twice, and another one. -/
def farKeys : List ChunkKey := [farKey, farKey, ⟨Int32.minValue, 0, 0, .overworld⟩]

/-- The first key is accepted and the second one skipped. The third one finds the queue full. -/
def farWaiting : List Move := List.replicate 13 .batch

/-- The worker serves one request and then the other one. -/
def farServing : List Move :=
  List.replicate 7 (.worker 0) ++ List.replicate 8 .batch ++ List.replicate 7 (.worker 0) ++
    List.replicate 3 .batch

theorem far_never_stuck :
    let waiting : Errand :=
      (start (.create 1 1 1) farKeys).play (Generator.standard.maker .forward) farWaiting
    let ended : Errand :=
      (start (.create 1 1 1) farKeys).play (Generator.standard.maker .forward)
        (farWaiting ++ farServing)
    waiting.call = .receiving false ∧ waiting.batch.held = true ∧
      (waiting.batch.pool.settle (Generator.standard.maker .forward)).results ≠ [] ∧
      ended.isOver = true ∧ ended.skipped = [farKey] ∧
      ended.batch.generated + ended.batch.failures + 1 = 3 := by
  obtain ⟨hwaiting, -, -⟩ :=
    never_stuck Generator.standard .forward 1 1 1 farKeys farWaiting
  obtain ⟨-, -, hover⟩ :=
    never_stuck Generator.standard .forward 1 1 1 farKeys (farWaiting ++ farServing)
  have hcall : ((start (.create 1 1 1) farKeys).play (Generator.standard.maker .forward)
      farWaiting).call = .receiving false := rfl
  have hend : ((start (.create 1 1 1) farKeys).play (Generator.standard.maker .forward)
      (farWaiting ++ farServing)).isOver = true := by decide +kernel
  have hskipped : ((start (.create 1 1 1) farKeys).play (Generator.standard.maker .forward)
      (farWaiting ++ farServing)).skipped = [farKey] := by decide +kernel
  obtain ⟨htotal, -⟩ := hover hend
  rw [hskipped] at htotal
  obtain ⟨-, -, hresults⟩ := hwaiting false hcall
  exact ⟨hcall, by decide +kernel, hresults, hend, hskipped, htotal⟩

end Errand

end Landform
