import Landform.Proofs.Batch.Balance
import Landform.Proofs.Pool.Outcome

/-! # Batches that end

Without a worker in between, the steps of an errand add up to those of the batch. So the run of a
batch in which the workers do all they can before every call is one of the runs that are in balance,
and since every call brings the batch closer to its end, it ends. -/

namespace Landform

open Pool

/-- A pool in which nothing is withdrawn gives every result to its caller. -/
theorem Pool.receive?_of_withdrawn {β : Type} {p : Pool β} (hw : p.withdrawn = []) :
    p.receive? = p.take?.map fun (r, q) => (some r, q.release r.task) := by
  unfold receive? take?
  cases p.results with
  | nil => rfl
  | cons r rest =>
    have hfresh : isWithdrawn { p with results := rest } r.task.ticket = false := by
      refine isWithdrawn_eq_false.mpr ?_
      change r.task.ticket ∉ p.withdrawn
      rw [hw]
      exact List.not_mem_nil
    simp only [Option.map_some, finish, hfresh, Bool.false_eq_true, if_false]

/-- What the next step of a batch does: it submits a key, waits for a result, or there is none. -/
theorem Batch.step?_cases (b : Batch) :
    (∃ key rest, b.todo = key :: rest ∧ b.held = false) ∨
    (b.request? = some .recv ∧ b.step? = b.receive?) ∨
    (b.isDone = true ∧ b.step? = none) := by
  obtain ⟨pool, todo, owed, held, generated, failures, anomalies⟩ := b
  cases todo with
  | cons key rest =>
    cases held with
    | false => exact .inl ⟨key, rest, rfl, rfl⟩
    | true => exact .inr (.inl ⟨rfl, rfl⟩)
  | nil =>
    cases held with
    | true => exact .inr (.inl ⟨rfl, rfl⟩)
    | false =>
      cases owed with
      | zero => exact .inr (.inr ⟨rfl, rfl⟩)
      | succ n => exact .inr (.inl ⟨rfl, rfl⟩)

/-- Bounds the number of calls that remain to a batch. A key and a result count twice, since the
queue can be full in between. -/
def Batch.remaining (b : Batch) : Nat :=
  2 * (b.todo.length + b.owed) + if b.held then 0 else 1

theorem Batch.remaining_submit {b b' : Batch} {event : Option Event} {key : ChunkKey}
    {rest : List ChunkKey} (htodo : b.todo = key :: rest) (hheld : b.held = false)
    (h : b.step? = some (b', event)) : b'.remaining < b.remaining := by
  unfold step? at h
  rw [htodo, hheld] at h
  simp only at h
  split at h <;> cases h
  · simp only [remaining, htodo, hheld, List.length_cons, Bool.false_eq_true, if_false]
    omega
  · simp only [remaining, htodo, hheld, Bool.false_eq_true, if_true, if_false]
    omega
  · simp only [remaining, htodo, hheld, List.length_cons, Bool.false_eq_true, if_false]
    omega

theorem Batch.remaining_receive {b b' : Batch} {event : Option Event}
    (hw : b.pool.withdrawn = []) (howed : 0 < b.owed) (h : b.receive? = some (b', event)) :
    b'.remaining < b.remaining := by
  rw [receive?, receive?_of_withdrawn hw, Option.map_map] at h
  obtain ⟨⟨r, q⟩, -, hreceived⟩ := Option.map_eq_some_iff.mp h
  cases hreceived
  simp only [remaining, withResult_todo, withResult_owed, withResult_held, Bool.false_eq_true,
    if_false]
  split <;> omega

namespace Errand

/-! ## Calls without a worker in between -/

section Alone

variable {b b' : Batch} {l : Ledger Chunk} {log : List Event} {event : Option Event}

theorem advance_ready {request : Request} (h : b.request? = some request) :
    advance ⟨b, .ready, l, log⟩ = ⟨b, request.call, l, log⟩ := by
  simp only [advance, h]

theorem advance_submitting_none {key : ChunkKey} (h : b.pool.register? key = none) :
    advance ⟨b, .submitting key, l, log⟩ =
      ⟨{ b with todo := b.todo.tail, owed := b.owed - 1 }, .ready, l,
        .skipped (.alreadyPending key) :: log⟩ := by
  change follow _ (Desk.proceed ⟨b.pool, .submitting key, l⟩) = _
  rw [Desk.proceed_submitting_none h]
  rfl

theorem advance_submitting_some {key : ChunkKey} {task : Task} {q : Pool Chunk}
    (h : b.pool.register? key = some (task, q)) :
    advance ⟨b, .submitting key, l, log⟩ = ⟨{ b with pool := q }, .registered task, l, log⟩ := by
  change follow _ (Desk.proceed ⟨b.pool, .submitting key, l⟩) = _
  rw [Desk.proceed_submitting_some h]
  rfl

theorem advance_entered_none {task : Task} (h : b.pool.enqueue? task = none) :
    advance ⟨b, .entered task, l, log⟩ = ⟨b, .refused task, l, log⟩ := by
  change follow _ (Desk.proceed ⟨b.pool, .entered task, l⟩) = _
  rw [Desk.proceed_entered_none h]
  rfl

theorem advance_entered_some {task : Task} {q : Pool Chunk} (h : b.pool.enqueue? task = some q) :
    advance ⟨b, .entered task, l, log⟩ =
      ⟨{ b with pool := q, todo := b.todo.tail }, .ready, l.accept task, log⟩ := by
  change follow _ (Desk.proceed ⟨b.pool, .entered task, l⟩) = _
  rw [Desk.proceed_entered_some h]
  rfl

theorem play_replicate (make : Maker Chunk) (e : Errand) (count : Nat) :
    e.play make (.replicate count .batch) = advance^[count] e := by
  induction count generalizing e with
  | zero => rfl
  | succ count ih => exact ih e.advance

/-- The steps of a submission add up to a step of the batch. -/
theorem exists_play_submit (make : Maker Chunk) {key : ChunkKey} {rest : List ChunkKey}
    (htodo : b.todo = key :: rest) (hheld : b.held = false) (h : b.step? = some (b', event)) :
    ∃ moves l', play make ⟨b, .ready, l, log⟩ moves = ⟨b', .ready, l', event.toList ++ log⟩ := by
  have hrequest : b.request? = some (.submit key) := by
    simp only [Batch.request?, htodo, hheld]
  have hask : advance ⟨b, .ready, l, log⟩ = ⟨b, .submitting key, l, log⟩ := advance_ready hrequest
  obtain ⟨p, todo, owed, held, generated, failures, anomalies⟩ := b
  obtain rfl : todo = key :: rest := htodo
  obtain rfl : held = false := hheld
  simp only [Batch.step?, Pool.submit] at h
  cases hregister : p.register? key with
  | none =>
    simp only [hregister] at h
    cases h
    refine ⟨.replicate 2 .batch, l, ?_⟩
    rw [play_replicate, Function.iterate_succ_apply, hask]
    exact advance_submitting_none hregister
  | some registered =>
    obtain ⟨task, q⟩ := registered
    simp only [hregister] at h
    cases hqueue : q.enter.enqueue? task with
    | none =>
      simp only [hqueue] at h
      cases h
      refine ⟨.replicate 6 .batch, l, ?_⟩
      rw [play_replicate, Function.iterate_succ_apply, hask, Function.iterate_succ_apply,
        advance_submitting_some hregister, Function.iterate_succ_apply]
      change advance^[3] ⟨_, .entered task, l, log⟩ = _
      rw [Function.iterate_succ_apply, advance_entered_none hqueue, Desk.register?_task hregister]
      rfl
    | some q' =>
      simp only [hqueue] at h
      cases h
      refine ⟨.replicate 4 .batch, l.accept task, ?_⟩
      rw [play_replicate, Function.iterate_succ_apply, hask, Function.iterate_succ_apply,
        advance_submitting_some hregister]
      exact advance_entered_some hqueue

/-- The steps of a wait add up to a step of the batch, if nothing is withdrawn. -/
theorem exists_play_receive (make : Maker Chunk) (hrequest : b.request? = some .recv)
    (hw : b.pool.withdrawn = []) (h : b.receive? = some (b', event)) :
    ∃ moves l', play make ⟨b, .ready, l, log⟩ moves = ⟨b', .ready, l', event.toList ++ log⟩ := by
  have hask : advance ⟨b, .ready, l, log⟩ = ⟨b, .receiving false, l, log⟩ := advance_ready hrequest
  rw [Batch.receive?, receive?_of_withdrawn hw] at h
  cases hresults : b.pool.results with
  | nil =>
    simp only [take?, hresults, Option.map_none] at h
    cases h
  | cons r rest =>
    have htake : b.pool.take? = some (r, { b.pool with results := rest }) := by
      simp only [take?, hresults]
    simp only [htake, Option.map_some] at h
    cases h
    have hsome : ¬b.pool.results.isEmpty = true := by
      rw [hresults]
      exact Bool.false_ne_true
    have htaken : advance ⟨b, .receiving false, l, log⟩ =
        ⟨{ b with pool := { b.pool with results := rest } }, .taken false r, l, log⟩ := by
      refine (if_neg hsome).trans ?_
      change follow _ (Desk.proceed ⟨b.pool, .receiving false, l⟩) = _
      rw [Desk.proceed_receiving_some htake]
      rfl
    have hclaimed : advance ⟨{ b with pool := { b.pool with results := rest } }, .taken false r, l,
          log⟩ =
        ⟨{ b with pool := { b.pool with results := rest } }, .claimed false r, l, log⟩ := by
      change follow _ (Desk.proceed ⟨{ b.pool with results := rest }, .taken false r, l⟩) = _
      rw [Desk.proceed_taken_of_not_withdrawn]
      · rfl
      · exact isWithdrawn_eq_false.mpr (hw ▸ List.not_mem_nil)
    refine ⟨.replicate 4 .batch, l.deliver r, ?_⟩
    rw [play_replicate, Function.iterate_succ_apply, hask, Function.iterate_succ_apply, htaken,
      Function.iterate_succ_apply, hclaimed]
    rfl

/-- The steps of a call add up to a step of the batch, if nothing is withdrawn. -/
theorem exists_play_step (make : Maker Chunk) (hw : b.pool.withdrawn = [])
    (h : b.step? = some (b', event)) :
    ∃ moves l', play make ⟨b, .ready, l, log⟩ moves = ⟨b', .ready, l', event.toList ++ log⟩ := by
  rcases b.step?_cases with ⟨key, rest, htodo, hheld⟩ | ⟨hrequest, hstep⟩ | ⟨-, hnone⟩
  · exact exists_play_submit make htodo hheld h
  · exact exists_play_receive make hrequest hw (hstep ▸ h)
  · rw [hnone] at h
    cases h

end Alone

/-! ## Coming to the end -/

section End

variable {make : Maker Chunk} {keys : List ChunkKey} {b b' : Batch} {l : Ledger Chunk}
  {log : List Event} {event : Option Event}

theorem Kept.withdrawn {e : Errand} (h : e.Kept keys) : e.batch.pool.withdrawn = [] := by
  have hw := h.sound.orderly.withdrawn
  change e.batch.pool.withdrawn.reverse = e.ledger.cancelled.map (·.ticket) at hw
  rw [h.balanced.cancelled] at hw
  exact List.reverse_eq_nil_iff.mp hw

theorem Balanced.owed_pos (h : Balanced keys ⟨b, .ready, l, log⟩)
    (hrequest : b.request? = some .recv) : 0 < b.owed := by
  have hlt : l.delivered.length < l.accepted.length := (h.ask hrequest).waiting rfl
  have hsum : b.owed + l.delivered.length = l.accepted.length + b.todo.length := h.owed_add
  omega

/-- Every call brings a batch closer to its end. -/
theorem Kept.remaining_lt (h : Kept keys ⟨b, .ready, l, log⟩) (hstep : b.step? = some (b', event)) :
    b'.remaining < b.remaining := by
  rcases b.step?_cases with ⟨key, rest, htodo, hheld⟩ | ⟨hrequest, hsame⟩ | ⟨-, hnone⟩
  · exact Batch.remaining_submit htodo hheld hstep
  · exact Batch.remaining_receive h.withdrawn (h.balanced.owed_pos hrequest) (hsame ▸ hstep)
  · rw [hnone] at hstep
    cases hstep

/-- When the workers have come to rest, a batch that has no call to make is done. -/
theorem Kept.isDone (honest : make.Truthful) (h : Kept keys ⟨b, .ready, l, log⟩)
    (hquiet : b.pool.Quiet make) (hstep : b.step? = none) : b.isDone = true := by
  rcases b.step?_cases with ⟨key, rest, htodo, hheld⟩ | ⟨hrequest, hsame⟩ | ⟨hdone, -⟩
  · unfold Batch.step? at hstep
    rw [htodo, hheld] at hstep
    simp only at hstep
    split at hstep <;> cases hstep
  · -- The batch would wait, and there is a result for it.
    have hasked : Kept keys ⟨b, .receiving false, l, log⟩ := by
      have hplay := h.play honest [.batch]
      rwa [show Errand.play make ⟨b, .ready, l, log⟩ [.batch] = ⟨b, .receiving false, l, log⟩ from
        advance_ready hrequest] at hplay
    have hresults : b.pool.results ≠ [] := hasked.results_of_quiet hquiet rfl
    obtain ⟨r, rest, hresults⟩ := List.exists_cons_of_ne_nil hresults
    rw [hsame, Batch.receive?, receive?_of_withdrawn h.withdrawn] at hstep
    simp only [take?, hresults, Option.map_some] at hstep
    cases hstep
  · exact hdone

/-- A batch whose workers do all they can before each of its calls makes one of its runs, and comes
to its end. -/
theorem exists_play_runWithin (honest : make.Truthful) {count : Nat}
    (h : Kept keys ⟨b, .ready, l, log⟩) (hcount : b.remaining ≤ count) :
    ∃ moves l', play make ⟨b, .ready, l, log⟩ moves =
        ⟨(b.runWithin make count log).1, .ready, l', (b.runWithin make count log).2.reverse⟩ ∧
      (b.runWithin make count log).1.isDone = true := by
  induction count generalizing b l log with
  | zero =>
    -- A batch that was refused is owed a result, so there is a call left.
    exfalso
    have hheld : b.held = true → l.delivered.length < l.accepted.length :=
      fun hheld => h.balanced.held (.inl hheld)
    have hsum : b.owed + l.delivered.length = l.accepted.length + b.todo.length :=
      h.balanced.owed_add
    unfold Batch.remaining at hcount
    split at hcount
    · rename_i hb
      have hlt := hheld hb
      omega
    · omega
  | succ count ih =>
    have hsettled := h.settle honest
    cases hnext : b.next? make with
    | none =>
      refine ⟨[], l, ?_, ?_⟩
      · simp only [Batch.runWithin, hnext, List.reverse_reverse]
        rfl
      · have hdone : Batch.isDone { b with pool := b.pool.settle make } = true :=
          hsettled.isDone honest (settle_quiet _) hnext
        simp only [Batch.runWithin, hnext]
        exact hdone
    | some next =>
      obtain ⟨b', event⟩ := next
      obtain ⟨before, hbefore⟩ := exists_play_settle make ⟨b, .ready, l, log⟩
      obtain ⟨call, l', hcall⟩ :
          ∃ moves l', play make ⟨{ b with pool := b.pool.settle make }, .ready, l, log⟩ moves =
            ⟨b', .ready, l', event.toList ++ log⟩ :=
        exists_play_step make hsettled.withdrawn hnext
      have hplay : play make ⟨b, .ready, l, log⟩ (before ++ call) =
          ⟨b', .ready, l', event.toList ++ log⟩ := by
        rw [play_append, hbefore]
        exact hcall
      have hlt : b'.remaining < b.remaining := hsettled.remaining_lt hnext
      have hkept := h.play honest (before ++ call)
      rw [hplay] at hkept
      obtain ⟨after, l'', hafter, hdone⟩ := ih hkept (by omega)
      refine ⟨before ++ call ++ after, l'', ?_, ?_⟩
      · rw [play_append, hplay, hafter]
        simp only [Batch.runWithin, hnext]
      · simp only [Batch.runWithin, hnext]
        exact hdone

end End

end Errand

theorem Batch.remaining_le_calls (b : Batch) : b.remaining ≤ b.calls := by
  unfold remaining calls
  split <;> omega

open Errand in
/-- The run of a batch on a new pool, with any keys, workers and room, comes to its end: every key
is generated, failed or skipped, no key is pending, and the batch succeeds if all keys are in
range. -/
theorem Batch.run_completes (g : Generator) (schedule : Schedule)
    (threads queueCapacity resultCapacity : Nat) (keys : List ChunkKey) :
    let b := (start (.create threads queueCapacity resultCapacity) keys).run (g.maker schedule)
    b.1.isDone = true ∧
    b.1.generated + b.1.failures + (b.2.filterMap Event.skippedKey?).length = keys.length ∧
    (∀ key, b.1.pool.isPending key = false) ∧
    ((∀ key ∈ keys, key.inRange = true) → b.1.succeeded = true) := by
  have honest := g.maker_truthful schedule
  have hkept := start_kept threads queueCapacity resultCapacity keys
  intro b
  obtain ⟨moves, l, hplay, hdone⟩ :
      ∃ moves l, Errand.play (g.maker schedule) (Errand.start _ keys) moves =
        ⟨b.1, .ready, l, b.2.reverse⟩ ∧ b.1.isDone = true :=
    exists_play_runWithin honest hkept (remaining_le_calls _)
  have hend := hkept.play honest moves
  have hdirect : (Errand.play (g.maker schedule)
      (Errand.start (.create threads queueCapacity resultCapacity) keys) moves).desk.Direct
      (g.maker schedule) :=
    desk_invariant (fun h => h.direct (g.maker_steady schedule)) (Desk.start_direct ..) moves
  rw [hplay] at hend hdirect
  refine ⟨hdone, ?_, hend.isPending_eq_false hdone, ?_⟩
  · have htotal := hend.total hdone
    simp only [skipped, List.filterMap_reverse, List.length_reverse] at htotal
    exact htotal
  · intro hrange
    have hfailures : b.1.failures = l.delivered.countP (!·.outcome.toBool) := hend.balanced.failures
    have hnone : l.delivered.countP (!·.outcome.toBool) = 0 := by
      refine List.countP_eq_zero.mpr fun r hr => ?_
      have hkey : r.task.key ∈ keys := by
        refine (hend.received_perm hdone).subset (List.mem_append_left _ ?_)
        exact List.mem_map_of_mem (List.mem_map_of_mem hr)
      have hout := (hdirect.delivered r hr).trans (g.maker_of_inRange schedule (hrange _ hkey))
      rw [hout]
      exact Bool.false_ne_true
    rw [succeeded, hdone, hfailures, hnone]
    rfl

end Landform
