import Landform.Proofs.Pool.Register

/-! # Handing over a result while it is cancelled

A caller who has taken a result off looks whether its request is withdrawn, and takes the request
off the register after that. A caller who cancels a request takes it off the register, and withdraws
it after that. So the two can pass each other, and only in this way is a request both cancelled and
received: neither caller learns that the request was no longer on the register. -/

namespace Landform.Pool.Hall

variable {β : Type}

/-! ## Steps -/

/-- The requests whose results were found not to be withdrawn and are about to be received. -/
def due (h : Hall β) : List Task := h.calls.flatMap Call.due

section Steps

variable {make : Maker β} {h h' : Hall β} {task : Task}

/-- A step calls off no request but one that is registered, or else it calls off none and receives
one that is due. -/
theorem Step.endings (hstep : Step make h h') :
    (h'.ledger.received = h.ledger.received ∧
      ∀ task ∈ h'.calledOff, task ∈ h.calledOff ∨ task ∈ h.pool.pending) ∨
    (h'.calledOff = h.calledOff ∧
      ∃ task ∈ h.due, h'.ledger.received = h.ledger.received ++ [task]) := by
  cases hstep with
  | @desk p call l d before after hdesk =>
    unfold calledOff due
    simp only [List.flatMap_append, List.flatMap_cons]
    -- the entry that a cancellation takes off and the result that is received are the only news
    cases hdesk with
    | begin request => cases request <;> exact .inl ⟨rfl, fun _ => .inl⟩
    | @takeOff p l other hother =>
      refine .inl ⟨rfl, fun task htask => ?_⟩
      simp only [Call.revoked, List.mem_append, List.mem_singleton] at htask ⊢
      -- what is new among those called off was registered
      rcases htask with (hmem | rfl | hmem) | hmem
      · exact .inl (.inl (.inl hmem))
      · exact .inr hother
      · exact .inl (.inl (.inr (.inr hmem)))
      · exact .inl (.inr hmem)
    | @withdraw p l other =>
      refine .inl ⟨rfl, fun task htask => .inl ?_⟩
      simp only [Call.revoked, Ledger.cancelled_cancel, List.mem_append, List.mem_singleton,
        List.not_mem_nil, false_or] at htask ⊢
      tauto
    | @release p l all result =>
      refine .inr ⟨?_, result.task, ?_, Ledger.received_deliver ..⟩
      · cases all <;> rfl
      · exact List.mem_append_right _ (List.mem_append_left _ (List.mem_singleton_self _))
    | _ => exact .inl ⟨rfl, fun _ => .inl⟩

/-- A result is due only if its request is not withdrawn when it is looked at. -/
theorem Step.due (hstep : Step make h h') (htask : task ∈ h'.due) :
    task ∈ h.due ∨ task.ticket ∉ h.pool.withdrawn := by
  cases hstep with
  | @desk p call l d before after hdesk =>
    unfold Hall.due at htask ⊢
    simp only [List.flatMap_append, List.flatMap_cons] at htask ⊢
    cases hdesk with
    | begin request => cases request <;> exact .inl htask
    | withdraw => exact .inl htask
    | @claim p l all result hclaimed =>
      simp only [Call.due, List.mem_append, List.mem_singleton] at htask ⊢
      rcases htask with hmem | rfl | hmem
      · exact .inl (.inl hmem)
      · exact .inr (isWithdrawn_eq_false.mp hclaimed)
      · exact .inl (.inr (.inr hmem))
    | @release p l all result =>
      refine .inl ?_
      simp only [List.mem_append] at htask ⊢
      rcases htask with hmem | hmem | hmem
      · exact .inl hmem
      · cases all <;> cases hmem
      · exact .inr (.inr hmem)
    | _ => exact .inl htask

/-- One step does not make a request both called off and received, unless it was due and called off
before. -/
theorem Step.apart (hstep : Step make h h') (hk : h.Kept)
    (hapart : task ∈ h.calledOff → task ∉ h.ledger.received)
    (hdue : task ∈ h.due → task ∉ h.calledOff) :
    task ∈ h'.calledOff → task ∉ h'.ledger.received := by
  intro hcalledOff hreceived
  rcases hstep.endings with ⟨hsame, hmore⟩ | ⟨hsame, other, hother, hmore⟩
  · rw [hsame] at hreceived
    rcases hmore task hcalledOff with hmem | hpending
    · exact hapart hmem hreceived
    · exact hk.ended task hreceived hpending
  · rw [hsame] at hcalledOff
    rw [hmore, List.mem_append, List.mem_singleton] at hreceived
    rcases hreceived with hmem | rfl
    · exact hapart hcalledOff hmem
    · exact hdue hother hcalledOff

end Steps

/-! ## Runs -/

section Runs

variable {make : Maker β} (honest : make.Truthful) {h : Hall β} {task : Task}

/-- A request that is withdrawn and of which no result is due will not be received. -/
theorem play_notMem_received (moves : List (Nat × Move))
    (hwithdrawn : task.ticket ∈ h.pool.withdrawn) (hdue : task ∉ h.due)
    (hreceived : task ∉ h.ledger.received) : task ∉ (h.play make moves).ledger.received := by
  refine (play_invariant (motive := fun h => task.ticket ∈ h.pool.withdrawn ∧ task ∉ h.due ∧
    task ∉ h.ledger.received) ?_ ⟨hwithdrawn, hdue, hreceived⟩ moves).2.2
  rintro h h' hstep ⟨hwithdrawn, hdue, hreceived⟩
  -- whoever looks at the flag from now on drops the result
  refine ⟨hstep.withdrawn_subset hwithdrawn, ?_, ?_⟩
  · intro hmem
    rcases hstep.due hmem with hmem | hgone
    · exact hdue hmem
    · exact hgone hwithdrawn
  · rcases hstep.endings with ⟨hsame, -⟩ | ⟨-, other, hother, hmore⟩
    · rw [hsame]
      exact hreceived
    · rw [hmore, List.mem_append, List.mem_singleton]
      rintro (hmem | rfl)
      · exact hreceived hmem
      · exact hdue hother

include honest

/-- A request that was received without being called off will not be called off. -/
theorem play_notMem_calledOff (moves : List (Nat × Move)) (hk : h.Kept)
    (hreceived : task ∈ h.ledger.received) (hcalledOff : task ∉ h.calledOff) :
    task ∉ (h.play make moves).calledOff := by
  refine (play_invariant (motive := fun h => h.Kept ∧ task ∈ h.ledger.received ∧
    task ∉ h.calledOff) ?_ ⟨hk, hreceived, hcalledOff⟩ moves).2.2
  rintro h h' hstep ⟨hk, hreceived, hcalledOff⟩
  refine ⟨hstep.kept honest hk, ?_⟩
  rcases hstep.endings with ⟨hsame, hmore⟩ | ⟨hsame, other, -, hmore⟩
  · refine ⟨hsame ▸ hreceived, fun hmem => ?_⟩
    rcases hmore task hmem with hmem | hpending
    · exact hcalledOff hmem
    · -- a cancellation finds registered requests only
      exact hk.ended task hreceived hpending
  · rw [hsame, hmore]
    exact ⟨List.mem_append_left _ hreceived, hcalledOff⟩

/-- As long as no request is called off while it is due, none is both called off and received. -/
theorem play_apart (callers threads queueCapacity resultCapacity : Nat)
    (moves : List (Nat × Move))
    (hdue : ∀ before, before <+: moves →
      task ∈ ((start callers threads queueCapacity resultCapacity).play make before).due →
        task ∉ ((start callers threads queueCapacity resultCapacity).play make before).calledOff) :
    task ∈ ((start callers threads queueCapacity resultCapacity).play make moves).calledOff →
      task ∉ ((start callers threads queueCapacity resultCapacity).play make
        moves).ledger.received := by
  -- induction on the last move, since the hypothesis is about all states before it
  induction moves using List.reverseRecOn with
  | nil => exact fun _ => List.not_mem_nil
  | append_singleton moves m ih =>
    have hprefix : moves <+: moves ++ [m] := List.prefix_append ..
    have ih := ih fun before hbefore => hdue before (hbefore.trans hprefix)
    rw [play_append]
    rcases move_step make (play make (start callers threads queueCapacity resultCapacity) moves) m
      with hsame | hstep
    · change task ∈ (move make _ m).calledOff → task ∉ (move make _ m).ledger.received
      rw [hsame]
      exact ih
    · exact hstep.apart (play_kept honest ..) ih (hdue moves hprefix)

end Runs

/-! ## Requests that are cancelled or received -/

/-- In every run of a pool of a generator with any number of callers, whose calls can overlap, and
whatever moves come before: a request that is cancelled, and not received nor due by then, is never
received; a request that is received, and not called off by then, is never cancelled; and a request
that ends up both cancelled and received has at some time been due and called off at once, which
means that the call that cancelled it and the call that received it passed each other. -/
theorem cancelled_and_received_overlap (g : Generator) (schedule : Schedule)
    (callers threads queueCapacity resultCapacity : Nat) (moves : List (Nat × Move)) :
    let after (played : List (Nat × Move)) : Hall Chunk :=
      (start callers threads queueCapacity resultCapacity).play (g.maker schedule) played
    (∀ before, before <+: moves → ∀ task,
      (task ∈ (after before).ledger.cancelled → task ∉ (after before).due →
        task ∉ (after before).ledger.received → task ∉ (after moves).ledger.received) ∧
      (task ∈ (after before).ledger.received → task ∉ (after before).calledOff →
        task ∉ (after moves).ledger.cancelled)) ∧
    (∀ task ∈ (after moves).ledger.cancelled, task ∈ (after moves).ledger.received →
      ∃ before, before <+: moves ∧
        task ∈ (after before).due ∧ task ∈ (after before).calledOff) := by
  have honest := g.maker_truthful schedule
  intro after
  have hkept (played : List (Nat × Move)) : (after played).Kept := play_kept honest ..
  refine ⟨?_, ?_⟩
  · rintro before ⟨rest, rfl⟩ task
    have hsplit : after (before ++ rest) = (after before).play (g.maker schedule) rest :=
      play_append ..
    rw [hsplit]
    refine ⟨?_, ?_⟩
    · intro hcancelled hdue hreceived
      have hwithdrawn : task.ticket ∈ (after before).pool.withdrawn := by
        rw [← List.mem_reverse, (hkept before).sound.withdrawn]
        exact List.mem_map_of_mem hcancelled
      exact play_notMem_received rest hwithdrawn hdue hreceived
    · intro hreceived hcalledOff hcancelled
      have hapart := play_notMem_calledOff honest rest (hkept before) hreceived hcalledOff
      exact hapart (List.mem_append_right _ hcancelled)
  · intro task hcancelled hreceived
    by_contra hnone
    -- without such a time the two endings would stay apart to the end
    refine play_apart honest callers threads queueCapacity resultCapacity moves ?_
      (List.mem_append_right _ hcancelled) hreceived
    intro before hbefore hdue hcalledOff
    exact hnone ⟨before, hbefore, hdue, hcalledOff⟩

/-! ## Two calls that pass each other

A caller has found that the result is not withdrawn, and the other caller cancels its request before
the first one takes it off the register. -/

def passing : List (Nat × Move) :=
  (Move.submission farKey ++ List.replicate 7 (Move.worker 0)).map (0, ·) ++
    [(0, .call .recv), (0, .proceed), (0, .proceed)] ++ (Move.cancellation farKey).map (1, ·) ++
    [(0, .proceed)]

/-- The resubmission of a cancelled key, and the calls that pass each other. -/
theorem passing_overlap :
    let after (callers : Nat) (played : List (Nat × Move)) : Hall Chunk :=
      (start callers 1 1 1).play (Generator.standard.maker .forward) played
    let resubmitted := Move.resubmission.map ((0, ·) : Move → Nat × Move)
    let completed := resubmitted ++ Move.completion.map (0, ·)
    ⟨farKey, 0⟩ ∉ (after 1 completed).ledger.received ∧
      ⟨farKey, 1⟩ ∉ (after 1 completed).ledger.cancelled ∧
      ∃ before, before <+: passing ∧
        ⟨farKey, 0⟩ ∈ (after 2 before).due ∧ ⟨farKey, 0⟩ ∈ (after 2 before).calledOff := by
  intro after resubmitted completed
  have hcompleted := (cancelled_and_received_overlap Generator.standard .forward 1 1 1 1
    completed).1
  have hpassing := (cancelled_and_received_overlap Generator.standard .forward 2 1 1 1 passing).2
  refine ⟨?_, ?_, ?_⟩
  · exact (hcompleted resubmitted (List.prefix_append ..) ⟨farKey, 0⟩).1 (by decide +kernel)
      (by decide +kernel) (by decide +kernel)
  · exact (hcompleted completed (List.prefix_refl _) ⟨farKey, 1⟩).2 (by decide +kernel)
      (by decide +kernel)
  · exact hpassing ⟨farKey, 0⟩ (by decide +kernel) (by decide +kernel)

/-- One caller is told that the request is cancelled, and the other one receives its result. -/
theorem passing_cancelled_and_received :
    let h : Hall Chunk := (start 2 1 1 1).play (Generator.standard.maker .forward) passing
    h.calls = [.ready, .ready] ∧ h.ledger.cancelled = [⟨farKey, 0⟩] ∧
      h.ledger.received = [⟨farKey, 0⟩] := by
  refine ⟨rfl, ?_, ?_⟩ <;> decide +kernel

end Landform.Pool.Hall
