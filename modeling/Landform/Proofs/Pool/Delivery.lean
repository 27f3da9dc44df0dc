import Landform.Proofs.Pool.Custody

/-! # What becomes of a request

A request is received at most once, and never once it has been cancelled. When nothing is under way
any more, every accepted request has been received or cancelled. -/

namespace Landform.Pool.Desk

variable {β : Type}

/-- What the caller was told about cancellations stays. -/
theorem Step.cancelled_prefix {make : Maker β} {d d' : Desk β} (h : Step make d d') :
    d.ledger.cancelled <+: d'.ledger.cancelled := by
  cases h with
  | withdraw => exact List.prefix_append ..
  | _ => exact List.prefix_refl _

theorem play_cancelled_prefix (make : Maker β) (d : Desk β) (moves : List Move) :
    d.ledger.cancelled <+: (d.play make moves).ledger.cancelled :=
  play_invariant (motive := fun d' => d.ledger.cancelled <+: d'.ledger.cancelled)
    (fun hstep h => h.trans hstep.cancelled_prefix) (List.prefix_refl _) moves

namespace Sound

variable {d : Desk β} {task : Task}

theorem received_nodup (h : d.Sound) : d.ledger.received.Nodup := by
  obtain ⟨lost, hperm, -⟩ := h.traced
  have hplaces := hperm.nodup_iff.mp h.orderly.accepted_nodup
  exact hplaces.of_append_left.of_append_right

theorem notMem_received_of_cancelled (h : d.Sound) (hcancelled : task ∈ d.ledger.cancelled) :
    task ∉ d.ledger.received := by
  have hstates := h.recorded.nodup_iff.mp h.orderly.nodup
  intro hreceived
  exact List.disjoint_of_nodup_append hstates (List.mem_append_right _ hreceived) hcancelled

/-- When nothing is under way, a request that no call is about is at one of its ends. -/
theorem ended (h : d.Sound) (hquiet : d.pool.underWay = []) (hcall : d.call.task? ≠ some task)
    (haccepted : task ∈ d.ledger.accepted) :
    (d.ledger.received.count task = 1 ∧ d.ledger.cancelled.count task = 0) ∨
    (d.ledger.received.count task = 0 ∧ d.ledger.cancelled.count task = 1) := by
  have hone := List.count_eq_one_of_mem h.orderly.accepted_nodup haccepted
  have hstates := h.count_states hcall
  by_cases hcancelled : task ∈ d.ledger.cancelled
  · have hpos := List.count_pos_iff.mpr hcancelled
    right
    omega
  · -- A request that has not been cancelled is not lost, so it is with its caller.
    have hwithdrawn : task.ticket ∉ d.pool.withdrawn :=
      fun hmem => hcancelled ((h.mem_withdrawn_iff haccepted).mp hmem)
    have hplaces := h.count_places hcall hwithdrawn
    rw [hquiet, List.count_nil] at hplaces
    left
    omega

end Sound

/-- In every run of a pool of a generator with a caller: the accepted requests are different; a
request is received at most once, and never after it has been cancelled; nothing is received that
was not accepted; and when nothing is under way, every accepted request has either been received
once or been cancelled once, apart from the request that the call in progress is about. -/
theorem received_exactly_once (g : Generator) (schedule : Schedule)
    (threads queueCapacity resultCapacity : Nat) (before after : List Move) :
    let c : Desk Chunk :=
      (start threads queueCapacity resultCapacity).play (g.maker schedule) before
    let d : Desk Chunk :=
      (start threads queueCapacity resultCapacity).play (g.maker schedule) (before ++ after)
    d.ledger.accepted.Nodup ∧ d.ledger.received.Nodup ∧
    (∀ task ∈ c.ledger.cancelled, task ∉ d.ledger.received) ∧
    (∀ task ∈ d.ledger.received, task ∈ d.ledger.accepted) ∧
    (d.pool.queue = [] → d.pool.results = [] → (∀ a ∈ d.pool.workers, a = .idle) →
      ∀ task ∈ d.ledger.accepted, d.call.task? ≠ some task →
        (d.ledger.received.count task = 1 ∧ d.ledger.cancelled.count task = 0) ∨
        (d.ledger.received.count task = 0 ∧ d.ledger.cancelled.count task = 1)) := by
  intro c d
  have h : d.Sound := play_sound (g.maker_truthful schedule) ..
  have hd : d = c.play (g.maker schedule) after := play_append ..
  refine ⟨h.orderly.accepted_nodup, h.received_nodup, ?_, h.received_subset, ?_⟩
  · intro task htask
    have hkept := play_cancelled_prefix (g.maker schedule) c after
    rw [← hd] at hkept
    exact h.notMem_received_of_cancelled (hkept.subset htask)
  · intro hqueue hresults hidle task haccepted hcall
    have hworkers : d.pool.workers.filterMap Phase.task? = [] := by
      refine List.filterMap_eq_nil_iff.mpr fun a ha => ?_
      rw [hidle a ha]
      rfl
    have hquiet : d.pool.underWay = [] := by
      unfold underWay
      rw [hqueue, hresults, hworkers]
      rfl
    exact h.ended hquiet hcall haccepted

/-- The cancelled request is not received, and the new one of the same key is received once. -/
theorem resubmission_received :
    let d : Desk Chunk := (start 1 1 1).play (Generator.standard.maker .forward)
      (Move.resubmission ++ Move.completion)
    ⟨farKey, 0⟩ ∉ d.ledger.received ∧ d.ledger.received.count ⟨farKey, 1⟩ = 1 := by
  intro d
  obtain ⟨-, -, hcancelled, -, hended⟩ :=
    received_exactly_once Generator.standard .forward 1 1 1 Move.resubmission Move.completion
  have hidle : ∀ a ∈ d.pool.workers, a = .idle := by
    intro a ha
    exact List.mem_singleton.mp (show a ∈ [Phase.idle] from ha)
  have hcall : d.call.task? ≠ some ⟨farKey, 1⟩ := nofun
  have hone := hended rfl rfl hidle ⟨farKey, 1⟩ (by decide +kernel) hcall
  refine ⟨hcancelled ⟨farKey, 0⟩ (by decide +kernel), ?_⟩
  rcases hone with ⟨hreceived, -⟩ | ⟨-, hgone⟩
  · exact hreceived
  · exact absurd hgone (by decide +kernel)

end Landform.Pool.Desk
