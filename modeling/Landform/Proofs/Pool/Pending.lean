import Landform.Proofs.Pool.Custody

/-! # What the register says

A key is registered for a request from the moment it is accepted until it is received or cancelled,
and until then the request is under way exactly once. Older requests of the same key that were
cancelled can still be under way. They do not disturb this, since they are told apart by their
tickets. While a call is in progress, the request that the call is about is in between. -/

namespace Landform.Pool

variable {β : Type}

/-- Where no key is registered twice, it is the registered task of a key that counts. -/
theorem registered?_iff {p : Pool β} (h : (p.pending.map (·.key)).Nodup) {key : ChunkKey}
    {task : Task} : p.registered? key = some task ↔ task ∈ p.pending ∧ task.key = key := by
  constructor
  · intro hr
    exact ⟨List.mem_of_find?_eq_some hr, by simpa using List.find?_some hr⟩
  · rintro ⟨htask, rfl⟩
    cases hr : p.registered? task.key with
    | none => exact absurd (List.find?_eq_none.mp hr task htask) (by simp)
    | some other =>
      have hkey : other.key = task.key := by simpa using List.find?_some hr
      rw [List.inj_on_of_nodup_map h (List.mem_of_find?_eq_some hr) htask hkey]

namespace Desk

theorem Orderly.registered?_iff {d : Desk β} (h : d.Orderly) {key : ChunkKey} {task : Task} :
    d.pool.registered? key = some task ↔ task ∈ d.pool.pending ∧ task.key = key :=
  Pool.registered?_iff h.keys

theorem Orderly.isPending_iff {d : Desk β} (h : d.Orderly) {key : ChunkKey} :
    d.pool.isPending key = true ↔ ∃ task ∈ d.pool.pending, task.key = key := by
  rw [isPending, Option.isSome_iff_exists]
  simp only [h.registered?_iff]

namespace Sound

variable {d : Desk β} {task : Task}

/-- A request that no call is about is registered if it is accepted, and neither received nor
cancelled. -/
theorem mem_pending_iff (h : d.Sound) (hcall : d.call.task? ≠ some task) :
    task ∈ d.pool.pending ↔
      task ∈ d.ledger.accepted ∧ task ∉ d.ledger.received ∧ task ∉ d.ledger.cancelled := by
  have hstates := h.count_states hcall
  have honce := h.count_accepted_le_one task
  simp only [← List.count_pos_iff]
  omega

/-- A request that no call is about is registered if it is accepted, not withdrawn, and under way
once. -/
theorem mem_pending_iff_underWay (h : d.Sound) (hcall : d.call.task? ≠ some task) :
    task ∈ d.pool.pending ↔
      d.pool.isWithdrawn task.ticket = false ∧ task ∈ d.ledger.accepted ∧
        d.pool.underWay.count task = 1 := by
  rw [h.mem_pending_iff hcall]
  constructor
  · rintro ⟨haccepted, hreceived, hcancelled⟩
    have hwithdrawn : task.ticket ∉ d.pool.withdrawn :=
      fun hmem => hcancelled ((h.mem_withdrawn_iff haccepted).mp hmem)
    have hplaces := h.count_places hcall hwithdrawn
    rw [List.count_eq_zero.mpr hreceived,
      List.count_eq_one_of_mem h.orderly.accepted_nodup haccepted] at hplaces
    exact ⟨isWithdrawn_eq_false.mpr hwithdrawn, haccepted, hplaces.symm⟩
  · rintro ⟨hflag, haccepted, hcount⟩
    have hwithdrawn := isWithdrawn_eq_false.mp hflag
    have hplaces := h.count_places hcall hwithdrawn
    rw [hcount, List.count_eq_one_of_mem h.orderly.accepted_nodup haccepted] at hplaces
    refine ⟨haccepted, List.count_eq_zero.mp (by omega), ?_⟩
    exact fun hcancelled => hwithdrawn ((h.mem_withdrawn_iff haccepted).mpr hcancelled)

end Sound

/-- In every state that a pool of a generator and its caller can reach, and apart from the request
that the call in progress is about: a key is registered for a request exactly if the request is for
the key, was accepted, is not withdrawn, and is once in the queue, with a worker or among the
results; whatever is there and not withdrawn is registered; and a key is pending exactly if a
request for it was accepted, and neither received nor cancelled since. -/
theorem registered_iff_underWay (g : Generator) (schedule : Schedule)
    (threads queueCapacity resultCapacity : Nat) (moves : List Move) :
    let d : Desk Chunk :=
      (start threads queueCapacity resultCapacity).play (g.maker schedule) moves
    (∀ key task, d.call.task? ≠ some task →
      (d.pool.registered? key = some task ↔
        task.key = key ∧ d.pool.isWithdrawn task.ticket = false ∧
          task ∈ d.ledger.accepted ∧ d.pool.underWay.count task = 1)) ∧
    (∀ task ∈ d.pool.underWay, d.call.task? ≠ some task →
      d.pool.isWithdrawn task.ticket = false → d.pool.registered? task.key = some task) ∧
    (∀ key, (∀ task, d.call.task? = some task → task.key ≠ key) →
      (d.pool.isPending key = true ↔
        ∃ task ∈ d.ledger.accepted, task.key = key ∧
          task ∉ d.ledger.received ∧ task ∉ d.ledger.cancelled)) := by
  intro d
  have h : d.Sound := play_sound (g.maker_truthful schedule) ..
  refine ⟨?_, ?_, ?_⟩
  · intro key task hcall
    rw [h.orderly.registered?_iff, h.mem_pending_iff_underWay hcall]
    exact and_comm
  · intro task htask hcall hflag
    have haccepted := h.underWay_subset htask
    have hcount : d.pool.underWay.count task = 1 := by
      have hplaces := h.count_places hcall (isWithdrawn_eq_false.mp hflag)
      have honce := h.count_accepted_le_one task
      have hpos := List.count_pos_iff.mpr htask
      omega
    rw [h.orderly.registered?_iff, h.mem_pending_iff_underWay hcall]
    exact ⟨⟨hflag, haccepted, hcount⟩, rfl⟩
  · intro key hkey
    rw [h.orderly.isPending_iff]
    have hother : ∀ task : Task, task.key = key → d.call.task? ≠ some task :=
      fun task htask hcall => hkey task hcall htask
    constructor
    · rintro ⟨task, htask, hk⟩
      obtain ⟨haccepted, hreceived, hcancelled⟩ := (h.mem_pending_iff (hother task hk)).mp htask
      exact ⟨task, haccepted, hk, hreceived, hcancelled⟩
    · rintro ⟨task, haccepted, hk, hreceived, hcancelled⟩
      exact ⟨task, (h.mem_pending_iff (hother task hk)).mpr ⟨haccepted, hreceived, hcancelled⟩, hk⟩

/-- The key is registered for the new request while the cancelled one is still under way. -/
theorem resubmission_registered :
    let d : Desk Chunk := (start 1 1 1).play (Generator.standard.maker .forward) Move.resubmission
    d.pool.underWay = [⟨farKey, 1⟩, ⟨farKey, 0⟩] ∧
      d.pool.registered? farKey = some ⟨farKey, 1⟩ ∧
      d.pool.registered? farKey ≠ some ⟨farKey, 0⟩ ∧ d.pool.isPending farKey = true := by
  intro d
  have hcall : d.call.task? = none := rfl
  obtain ⟨hregistered, hkept, hpending⟩ :=
    registered_iff_underWay Generator.standard .forward 1 1 1 Move.resubmission
  refine ⟨rfl, ?_, ?_, ?_⟩
  · exact hkept ⟨farKey, 1⟩ (by decide +kernel) (by rw [hcall]; exact nofun) rfl
  · intro hold
    have hflag := ((hregistered farKey ⟨farKey, 0⟩ (by rw [hcall]; exact nofun)).mp hold).2.1
    exact absurd hflag (by decide +kernel)
  · refine (hpending farKey (by rw [hcall]; exact nofun)).mpr ⟨⟨farKey, 1⟩, ?_⟩
    decide +kernel

end Desk

end Landform.Pool
