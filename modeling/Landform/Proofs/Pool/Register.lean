import Landform.Proofs.Pool.Outcome
import Landform.Proofs.Pool.Pending
import Mathlib.Data.List.Induction

/-! # The register under overlapping calls

An accepted request stays registered until it is received or cancelled, with one exception. A
refused submission takes its key off the register, whoever the key is registered for by then. That
is the submission itself, unless somebody has cancelled it in the meantime: then the key can be
registered for a later request, which may have been accepted, and that one loses its entry. -/

namespace Landform.Pool

variable {β : Type}

/-! ## Steps at a desk -/

namespace Desk

variable {make : Maker β} {d d' : Desk β} {task : Task}

/-- An entry stays on the register until its request is received or called off, or a refused
submission of the key takes it off. -/
theorem Step.pending (h : Step make d d') (hkeys : (d.pool.pending.map (·.key)).Nodup)
    (htask : task ∈ d.pool.pending) :
    task ∈ d'.pool.pending ∨ task ∈ d'.ledger.received ∨ task ∈ d'.call.revoked ∨
      ∃ other, d.call = .left other ∧ d' = ⟨d.pool.unregister other.key, .ready, d.ledger⟩ ∧
        other.key = task.key := by
  cases h with
  | worker hworkers hturn => exact .inl (hturn.frame.1 ▸ htask)
  | register hkey => exact .inl (List.mem_append_left _ htask)
  | @unregister p l other =>
    -- the entry of the key goes, whichever request it is for
    by_cases hkey : task.key = other.key
    · exact .inr (.inr (.inr ⟨other, rfl, rfl, hkey.symm⟩))
    · exact .inl (List.mem_filter.mpr ⟨htask, bne_iff_ne.mpr hkey⟩)
  | @takeOff p l other hother =>
    by_cases hkey : task.key = other.key
    · -- the cancellation has found the one entry of the key
      have hsame := List.inj_on_of_nodup_map hkeys htask hother hkey
      exact .inr (.inr (.inl (List.mem_singleton.mpr hsame)))
    · exact .inl (List.mem_filter.mpr ⟨htask, bne_iff_ne.mpr hkey⟩)
  | @release p l all result =>
    by_cases hsame : task = result.task
    · refine .inr (.inl ?_)
      rw [Ledger.received_deliver, hsame]
      exact List.mem_append_right _ (List.mem_singleton_self _)
    · exact .inl (List.mem_filter.mpr ⟨htask, bne_iff_ne.mpr hsame⟩)
  | _ => exact .inl htask

/-- A request that is new is registered. -/
theorem Step.requested (h : Step make d d')
    (htask : task ∈ d'.ledger.accepted ++ d'.call.offered) :
    task ∈ d.ledger.accepted ++ d.call.offered ∨ task ∈ d'.pool.pending := by
  cases h with
  | begin request => cases request <;> exact .inl htask
  | register hkey =>
    rcases List.mem_append.mp htask with haccepted | hnew
    · exact .inl (List.mem_append_left _ haccepted)
    · exact .inr (List.mem_append_right _ hnew)
  | enqueue hroom =>
    -- what is accepted now was on offer before
    rcases List.mem_append.mp htask with haccepted | hnone
    · exact .inl haccepted
    · cases hnone
  | unregister =>
    rcases List.mem_append.mp htask with haccepted | hnone
    · exact .inl (List.mem_append_left _ haccepted)
    · cases hnone
  | @release p l all result => cases all <;> exact .inl htask
  | _ => exact .inl htask

theorem Step.calledOff_subset (h : Step make d d') :
    d.call.revoked ++ d.ledger.cancelled ⊆ d'.call.revoked ++ d'.ledger.cancelled := by
  cases h with
  | begin request => cases request <;> exact List.Subset.refl _
  | takeOff hother => exact List.subset_cons_self ..
  | @withdraw p l other => exact (List.perm_append_singleton ..).symm.subset
  | @release p l all result => cases all <;> exact List.Subset.refl _
  | _ => exact List.Subset.refl _

theorem Step.received_subset (h : Step make d d') : d.ledger.received ⊆ d'.ledger.received := by
  cases h with
  | release => rw [Ledger.received_deliver]; exact List.subset_append_left ..
  | _ => exact List.Subset.refl _

/-- A request that was received is not registered. -/
theorem Step.ended (h : Step make d d')
    (hnumbered : ∀ task ∈ d.ledger.received, task.ticket < d.pool.nextTicket)
    (hd : ∀ task ∈ d.ledger.received, task ∉ d.pool.pending) :
    ∀ task ∈ d'.ledger.received, task ∉ d'.pool.pending := by
  cases h with
  | worker hworkers hturn =>
    simp only [hturn.frame.1]
    exact hd
  | register hkey =>
    intro task htask hpending
    rcases List.mem_append.mp hpending with hpending | hnew
    · exact hd task htask hpending
    · -- the new ticket is greater than that of any request that was received
      rw [List.mem_singleton.mp hnew] at htask
      exact Nat.lt_irrefl _ (hnumbered _ htask)
  | unregister => exact fun task htask hpending => hd task htask (List.mem_filter.mp hpending).1
  | takeOff hother =>
    exact fun task htask hpending => hd task htask (List.mem_filter.mp hpending).1
  | release =>
    intro task htask hpending
    obtain ⟨hpending, hne⟩ := List.mem_filter.mp hpending
    rw [Ledger.received_deliver] at htask
    rcases List.mem_append.mp htask with htask | hsame
    · exact hd task htask hpending
    · exact bne_iff_ne.mp hne (List.mem_singleton.mp hsame)
  | _ => exact hd

end Desk

namespace Hall

/-! ## Steps in a hall -/

/-- The requests that were accepted or are being submitted. -/
def requested (h : Hall β) : List Task := h.ledger.accepted ++ h.calls.flatMap Call.offered

/-- The requests that were cancelled, or are off the register since they are being cancelled. -/
def calledOff (h : Hall β) : List Task := h.calls.flatMap Call.revoked ++ h.ledger.cancelled

/-- In this step a refused submission takes the key off the register while it is registered for
another request. -/
def Overtaken (h h' : Hall β) (task : Task) : Prop :=
  task ∈ h.pool.pending ∧ ∃ other before after, other.key = task.key ∧ other ≠ task ∧
    h.calls = before ++ .left other :: after ∧
    h' = ⟨h.pool.unregister other.key, before ++ .ready :: after, h.ledger⟩

section Steps

variable {make : Maker β} {h h' : Hall β} {task : Task}

/-- What holds of the row of callers by one of them. -/
theorem mem_row {f : Call β → List Task} {before after : List (Call β)} {call : Call β} :
    task ∈ (before ++ call :: after).flatMap f ↔
      task ∈ before.flatMap f ∨ task ∈ f call ∨ task ∈ after.flatMap f := by
  simp only [List.flatMap_append, List.flatMap_cons, List.mem_append]

theorem Step.keys (hstep : Step make h h') (hkeys : (h.pool.pending.map (·.key)).Nodup) :
    (h'.pool.pending.map (·.key)).Nodup := by
  cases hstep with
  | desk hdesk => exact hdesk.keys hkeys

theorem Step.ended (hstep : Step make h h') (hs : h.Sound)
    (hended : ∀ task ∈ h.ledger.received, task ∉ h.pool.pending) :
    ∀ task ∈ h'.ledger.received, task ∉ h'.pool.pending := by
  cases hstep with
  | desk hdesk =>
    refine hdesk.ended (fun task htask => ?_) hended
    exact hs.numbered.fresh task (List.mem_append_left _ (hs.received_subset htask))

theorem Step.received_subset (hstep : Step make h h') : h.ledger.received ⊆ h'.ledger.received := by
  cases hstep with
  | desk hdesk => exact hdesk.received_subset

theorem Step.calledOff_subset (hstep : Step make h h') : h.calledOff ⊆ h'.calledOff := by
  cases hstep with
  | @desk p call l d before after hdesk =>
    intro task htask
    -- the other callers are about the same requests as before
    have hsubset := hdesk.calledOff_subset (a := task)
    simp only [calledOff, List.mem_append, mem_row] at htask hsubset ⊢
    tauto

theorem Step.requested (hstep : Step make h h') (htask : task ∈ h'.requested) :
    task ∈ h.requested ∨ task ∈ h'.pool.pending := by
  cases hstep with
  | @desk p call l d before after hdesk =>
    have hnew : task ∈ d.ledger.accepted ++ d.call.offered → _ := hdesk.requested
    simp only [Hall.requested, List.mem_append, mem_row] at htask hnew ⊢
    tauto

/-- A request loses its entry when it is received or called off, or a refused submission takes it
off. That is the submission of the request itself, or of another one. -/
theorem Step.pending (hstep : Step make h h') (hs : h.Sound)
    (hkeys : (h.pool.pending.map (·.key)).Nodup) (htask : task ∈ h.pool.pending)
    (hrequested : task ∈ h'.requested) :
    task ∈ h'.pool.pending ∨ task ∈ h'.ledger.received ∨ task ∈ h'.calledOff ∨
      Overtaken h h' task := by
  have hnodup := hs.numbered.nodup
  cases hstep with
  | @desk p call l d before after hdesk =>
    rcases hdesk.pending hkeys htask with hstays | hreceived | hrevoked | ⟨other, rfl, rfl, hkey⟩
    · exact .inl hstays
    · exact .inr (.inl hreceived)
    · exact .inr (.inr (.inl (List.mem_append_left _ (mem_row.mpr (.inr (.inl hrevoked))))))
    · refine .inr (.inr (.inr ⟨htask, other, before, after, hkey, ?_, rfl, rfl⟩))
      -- the request of the refused submission itself is not asked for any more
      rintro rfl
      have hperm : (l.accepted ++ (before ++ .left other :: after).flatMap Call.offered).Perm
          (other :: (l.accepted ++ (before ++ .ready :: after).flatMap Call.offered)) := by
        rw [List.perm_iff_count]
        intro t
        simp only [List.flatMap_append, List.flatMap_cons, Call.offered, List.count_append,
          List.count_cons, List.count_nil]
        omega
      exact (List.nodup_cons.mp (hperm.nodup_iff.mp hnodup)).1 hrequested

end Steps

/-! ## Runs -/

/-- No key is registered twice, and no request that was received. -/
structure Kept (h : Hall β) : Prop where
  sound : h.Sound
  keys : (h.pool.pending.map (·.key)).Nodup
  ended : ∀ task ∈ h.ledger.received, task ∉ h.pool.pending

theorem Step.kept {make : Maker β} (honest : make.Truthful) {h h' : Hall β}
    (hstep : Step make h h') (hk : h.Kept) : h'.Kept where
  sound := hstep.sound honest hk.sound
  keys := hstep.keys hk.keys
  ended := hstep.ended hk.sound hk.ended

theorem play_kept {make : Maker β} (honest : make.Truthful)
    (callers threads queueCapacity resultCapacity : Nat) (moves : List (Nat × Move)) :
    ((start callers threads queueCapacity resultCapacity).play make moves).Kept :=
  play_invariant (fun hstep => hstep.kept honest)
    ⟨start_sound .., .nil, List.forall_mem_nil _⟩ moves

/-- In the course of some moves the request has been overtaken. -/
def OvertakenDuring (make : Maker β) (h : Hall β) (moves : List (Nat × Move)) (task : Task) :
    Prop :=
  ∃ before m, before ++ [m] <+: moves ∧
    Overtaken (h.play make before) (h.play make (before ++ [m])) task

theorem OvertakenDuring.mono {make : Maker β} {h : Hall β} {moves more : List (Nat × Move)}
    {task : Task} (hmoves : moves <+: more) (ht : OvertakenDuring make h moves task) :
    OvertakenDuring make h more task := by
  obtain ⟨before, m, hbefore, hovertaken⟩ := ht
  exact ⟨before, m, hbefore.trans hmoves, hovertaken⟩

/-- A request that is being submitted or was accepted is registered, received, called off, or has
been overtaken. -/
theorem play_standing {make : Maker β} (honest : make.Truthful)
    (callers threads queueCapacity resultCapacity : Nat) (moves : List (Nat × Move)) :
    let first : Hall β := start callers threads queueCapacity resultCapacity
    ∀ task ∈ (first.play make moves).requested, task ∉ (first.play make moves).ledger.received →
      task ∉ (first.play make moves).calledOff →
        task ∈ (first.play make moves).pool.pending ∨ OvertakenDuring make first moves task := by
  intro first
  -- induction on the last move
  induction moves using List.reverseRecOn with
  | nil =>
    intro task hrequested
    simp only [play, List.foldl_nil, requested, first, start, flatMap_ready (f := Call.offered) rfl]
      at hrequested
    cases hrequested
  | append_singleton moves m ih =>
    have hprefix : moves <+: moves ++ [m] := List.prefix_append ..
    have hplay : first.play make (moves ++ [m]) = (first.play make moves).move make m :=
      play_append ..
    have hk : (first.play make moves).Kept := play_kept honest ..
    intro task hrequested hreceived hcalledOff
    rw [hplay] at hrequested hreceived hcalledOff ⊢
    rcases move_step make (first.play make moves) m with hsame | hstep
    · rw [hsame] at hrequested hreceived hcalledOff ⊢
      exact (ih task hrequested hreceived hcalledOff).imp_right (.mono hprefix)
    · rcases hstep.requested hrequested with hbefore | hnew
      · have hreceived' := fun hmem => hreceived (hstep.received_subset hmem)
        have hcalledOff' := fun hmem => hcalledOff (hstep.calledOff_subset hmem)
        rcases ih task hbefore hreceived' hcalledOff' with hpending | hovertaken
        · -- only the last move can have taken the entry off
          rcases hstep.pending hk.sound hk.keys hpending hrequested with h | h | h | h
          · exact .inl h
          · exact absurd h hreceived
          · exact absurd h hcalledOff
          · exact .inr ⟨moves, m, List.prefix_refl _, hplay ▸ h⟩
        · exact .inr (hovertaken.mono hprefix)
      · exact .inl hnew

/-- A request is overtaken only when a refused submission of the key had been called off before it
took the key off the register. -/
theorem play_overtaken {make : Maker β} (honest : make.Truthful)
    (callers threads queueCapacity resultCapacity : Nat) {moves : List (Nat × Move)} {task : Task} :
    let first : Hall β := start callers threads queueCapacity resultCapacity
    OvertakenDuring make first moves task →
      ∃ before other, before <+: moves ∧ .left other ∈ (first.play make before).calls ∧
        other.key = task.key ∧ other ∈ (first.play make before).calledOff := by
  intro first hduring
  -- induction on the length: whoever overtakes can itself have been overtaken before
  induction hlength : moves.length using Nat.strong_induction_on generalizing moves task with
  | _ n ih =>
    obtain ⟨before, m, hbefore, hpending, other, row, row', hkey, hne, hcalls, -⟩ := hduring
    have hcall : .left other ∈ (first.play make before).calls := by
      rw [hcalls]
      exact List.mem_append_right _ (List.mem_cons_self ..)
    have hk : (first.play make before).Kept := play_kept honest ..
    have hprefix : before <+: moves := (List.prefix_append before [m]).trans hbefore
    have hoffered : other ∈ (first.play make before).calls.flatMap Call.offered :=
      List.mem_flatMap.mpr ⟨_, hcall, List.mem_singleton_self _⟩
    have hreceived : other ∉ (first.play make before).ledger.received := by
      intro hreceived
      have hdisjoint := List.disjoint_of_nodup_append hk.sound.numbered.nodup
      exact hdisjoint (hk.sound.received_subset hreceived) hoffered
    by_cases hcalledOff : other ∈ (first.play make before).calledOff
    · exact ⟨before, other, hprefix, hcall, hkey, hcalledOff⟩
    · rcases play_standing honest callers threads queueCapacity resultCapacity before other
        (List.mem_append_right _ hoffered) hreceived hcalledOff with hentry | hearlier
      · -- the key cannot be registered for both
        exact absurd (List.inj_on_of_nodup_map hk.keys hentry hpending hkey) hne
      · have hshorter : before.length < n := by
          have hlast := hbefore.length_le
          rw [List.length_append, List.length_singleton] at hlast
          omega
        obtain ⟨earlier, root, hearlier, hroot, hsame, hgone⟩ := ih _ hshorter hearlier rfl
        exact ⟨earlier, root, hearlier.trans hprefix, hroot, hsame.trans hkey, hgone⟩

/-! ## Accepted requests -/

/-- In every run of a pool of a generator with any number of callers, whose calls can overlap: a
request that was accepted, and neither received nor called off, is registered, so that its key is
pending, a further submission of the key is refused, and a cancellation of the key withdraws this
very request; or else the rollback of a refused submission has taken the key off the register while
it was registered for this request. That happens only when a refused submission of the key has been
cancelled, or is being cancelled, before its rollback. -/
theorem registered_of_accepted (g : Generator) (schedule : Schedule)
    (callers threads queueCapacity resultCapacity : Nat) (moves : List (Nat × Move)) :
    let first : Hall Chunk := start callers threads queueCapacity resultCapacity
    let h : Hall Chunk := first.play (g.maker schedule) moves
    (∀ task ∈ h.ledger.accepted, task ∉ h.ledger.received → task ∉ h.calledOff →
      (h.pool.registered? task.key = some task ∧ h.pool.isPending task.key = true ∧
        (h.pool.submit task.key).1 = .error (.alreadyPending task.key) ∧
        h.pool.cancel task.key = (true, (h.pool.unregister task.key).withdraw task.ticket)) ∨
      OvertakenDuring (g.maker schedule) first moves task) ∧
    (∀ task, OvertakenDuring (g.maker schedule) first moves task →
      ∃ before other, before <+: moves ∧
        .left other ∈ (first.play (g.maker schedule) before).calls ∧ other.key = task.key ∧
        other ∈ (first.play (g.maker schedule) before).calledOff) := by
  have honest := g.maker_truthful schedule
  intro first h
  have hk : h.Kept := play_kept honest ..
  refine ⟨?_, ?_⟩
  · intro task haccepted hreceived hcalledOff
    refine (play_standing honest callers threads queueCapacity resultCapacity moves task
      (List.mem_append_left _ haccepted) hreceived hcalledOff).imp_left ?_
    intro hpending
    have hregistered : h.pool.registered? task.key = some task :=
      (registered?_iff hk.keys).mpr ⟨hpending, rfl⟩
    have hisPending : h.pool.isPending task.key = true := by rw [isPending, hregistered]; rfl
    refine ⟨hregistered, hisPending, ?_, ?_⟩
    · simp only [submit, register?, hisPending, if_true]
    · simp only [cancel, hregistered]
  · intro task hduring
    exact play_overtaken honest callers threads queueCapacity resultCapacity hduring

/-! ## Two runs

In both the queue is full when a key is requested. In the first one the refused submission takes its
own entry off. In the second one a worker makes room before that, and another caller cancels the key
and requests it again. -/

def refusal : List (Nat × Move) :=
  (Move.submission farKey ++ Move.cancellation farKey ++ Move.submission farKey).map (0, ·) ++
    (Move.call (.submit nearKey) :: List.replicate 5 .proceed).map (1, ·)

def crossing : List (Nat × Move) :=
  (Move.submission nearKey).map (1, ·) ++
    (Move.call (.submit farKey) :: List.replicate 3 .proceed).map (0, ·) ++
    [(0, .worker 0)] ++ (Move.cancellation farKey ++ Move.submission farKey).map (1, ·) ++
    [(0, .proceed)]

/-- The caller whose submission was refused gives up. -/
def givingUp : List (Nat × Move) := [(0, .proceed), (0, .worker 1)]

/-- In the first run the accepted request of the cancelled key keeps its entry. In the second one
the refused submission had been cancelled. -/
theorem refusal_registered :
    let make := Generator.standard.maker .forward
    let h : Hall Chunk := (start 2 1 2 1).play make refusal
    let first : Hall Chunk := start 2 2 1 1
    h.pool.registered? farKey = some ⟨farKey, 1⟩ ∧
      (h.pool.submit farKey).1 = .error (.alreadyPending farKey) ∧
      (h.pool.cancel farKey).1 = true ∧
      ∃ before other, before <+: crossing ++ givingUp ∧
        .left other ∈ (first.play make before).calls ∧ other.key = farKey ∧
          other ∈ (first.play make before).calledOff := by
  intro make h first
  obtain ⟨haccepted, hcause⟩ := registered_of_accepted Generator.standard .forward 2 1 2 1 refusal
  obtain ⟨-, hcrossed⟩ :=
    registered_of_accepted Generator.standard .forward 2 2 1 1 (crossing ++ givingUp)
  -- no submission of the run is called off before it is accepted or refused
  have hapart : ∀ k : Fin (refusal.length + 1), ∀ task ∈ ((start 2 1 2 1 : Hall Chunk).play make
      (refusal.take k)).calls.flatMap Call.offered,
      task ∉ ((start 2 1 2 1 : Hall Chunk).play make (refusal.take k)).calledOff := by
    decide +kernel
  rcases haccepted ⟨farKey, 1⟩ (by decide +kernel) (by decide +kernel) (by decide +kernel) with
    ⟨hregistered, -, hsubmit, hcancel⟩ | hduring
  · refine ⟨hregistered, hsubmit, congrArg Prod.fst hcancel, ?_⟩
    refine hcrossed ⟨farKey, 2⟩ ⟨crossing, (0, .proceed), ⟨[(0, .worker 1)], rfl⟩, ?_, ?_⟩
    · decide +kernel
    · exact ⟨⟨farKey, 1⟩, [], [.ready], rfl, by decide, rfl, rfl⟩
  · obtain ⟨before, other, hbefore, hcall, -, hcalledOff⟩ := hcause _ hduring
    have hlength := Nat.lt_succ_of_le hbefore.length_le
    rw [List.prefix_iff_eq_take.mp hbefore] at hcall hcalledOff
    exact absurd hcalledOff (hapart ⟨before.length, hlength⟩ other
      (List.mem_flatMap.mpr ⟨_, hcall, List.mem_singleton_self _⟩))

/-- After the second run the later request is with a worker, was not cancelled, and is not
registered: its key can be requested once more, and it cannot be cancelled. -/
theorem crossing_unregistered :
    let h : Hall Chunk :=
      (start 2 2 1 1).play (Generator.standard.maker .forward) (crossing ++ givingUp)
    ⟨farKey, 2⟩ ∈ h.ledger.accepted ∧ ⟨farKey, 2⟩ ∉ h.ledger.received ∧
      ⟨farKey, 2⟩ ∉ h.calledOff ∧ ⟨farKey, 2⟩ ∈ h.pool.underWay ∧ h.calls = [.ready, .ready] ∧
      h.pool.isPending farKey = false ∧ (h.pool.submit farKey).1 = .ok () ∧
      (h.pool.cancel farKey).1 = false := by
  refine ⟨?_, ?_, ?_, ?_, rfl, ?_, rfl, ?_⟩ <;> decide +kernel

end Hall

end Landform.Pool
