import Landform.Proofs.Pool.Custody

/-! # A pool and its callers

Several callers share a pool. Each of them has a desk and makes one call after the other there, and
the calls of different callers overlap: between two steps of a call the other callers and the
workers take theirs. A hall is a pool with a row of callers. The ledger keeps what any of them has
been told.

A step at one desk leaves the other callers where they are. So what a step does at a desk, as far as
it does not rely on the caller being alone, says what it does in a hall. -/

namespace Landform.Pool

variable {β : Type}

/-- A pool, how far each of its callers is, and what the callers have been told. -/
structure Hall (β : Type) where
  pool : Pool β
  calls : List (Call β)
  ledger : Ledger β

namespace Hall

/-! ## Moves -/

/-- The hall of a new pool. -/
def start (callers threads queueCapacity resultCapacity : Nat) : Hall β :=
  ⟨.create threads queueCapacity resultCapacity, .replicate callers .ready, .blank⟩

/-- The hall after a move at the desk of a caller. A worker makes the same move from every desk.
What is not possible changes nothing. -/
def move (make : Maker β) (h : Hall β) : Nat × Move → Hall β
  | (i, m) =>
    match h.calls[i]? with
    | none => h
    | some call =>
      let d := Desk.move make ⟨h.pool, call, h.ledger⟩ m
      ⟨d.pool, h.calls.set i d.call, d.ledger⟩

/-- The hall after a list of moves, each at the desk of one caller. -/
def play (make : Maker β) (h : Hall β) (moves : List (Nat × Move)) : Hall β :=
  moves.foldl (move make) h

theorem play_append (make : Maker β) (h : Hall β) (before after : List (Nat × Move)) :
    h.play make (before ++ after) = (h.play make before).play make after :=
  List.foldl_append

/-- A desk is a hall with one caller. -/
theorem play_single (make : Maker β) (d : Desk β) (moves : List Move) :
    play make ⟨d.pool, [d.call], d.ledger⟩ (moves.map (0, ·)) =
      ⟨(d.play make moves).pool, [(d.play make moves).call], (d.play make moves).ledger⟩ := by
  induction moves generalizing d with
  | nil => rfl
  | cons m moves ih => exact ih (d.move make m)

/-! ## Steps -/

/-- One step in a hall is a step at one of its desks. -/
inductive Step (make : Maker β) : Hall β → Hall β → Prop where
  | desk {p : Pool β} {call : Call β} {l : Ledger β} {d : Desk β} {before after : List (Call β)}
    (h : Desk.Step make ⟨p, call, l⟩ d) :
    Step make ⟨p, before ++ call :: after, l⟩ ⟨d.pool, before ++ d.call :: after, d.ledger⟩

/-- A move changes nothing or is a step. -/
theorem move_step (make : Maker β) (h : Hall β) (m : Nat × Move) :
    h.move make m = h ∨ Step make h (h.move make m) := by
  obtain ⟨p, calls, l⟩ := h
  obtain ⟨i, m⟩ := m
  cases hcall : calls[i]? with
  | none => exact .inl (by simp only [move, hcall])
  | some call =>
    simp only [move, hcall]
    obtain ⟨hi, rfl⟩ := List.getElem?_eq_some_iff.mp hcall
    rcases Desk.move_step make ⟨p, calls[i], l⟩ m with hsame | hstep
    · rw [hsame, List.set_getElem_self]
      exact .inl rfl
    · -- The row of callers is cut at the one whose desk it is.
      obtain ⟨before, after, hcalls, -, hset⟩ :
          ∃ before after, calls = before ++ calls[i] :: after ∧ before.length = i ∧
            calls.set i (Desk.move make ⟨p, calls[i], l⟩ m).call =
              before ++ (Desk.move make ⟨p, calls[i], l⟩ m).call :: after := List.exists_of_set hi
      rw [hset]
      have hrow : Step make ⟨p, before ++ calls[i] :: after, l⟩ _ := .desk hstep
      rw [← hcalls] at hrow
      exact .inr hrow

/-- What every step keeps holds throughout a run. -/
theorem play_invariant {make : Maker β} {motive : Hall β → Prop}
    (step : ∀ {h h' : Hall β}, Step make h h' → motive h → motive h') {h : Hall β}
    (hstart : motive h) (moves : List (Nat × Move)) : motive (h.play make moves) := by
  induction moves generalizing h with
  | nil => exact hstart
  | cons m moves ih =>
    refine ih ?_
    obtain hsame | hstep := h.move_step make m
    · rw [hsame]
      exact hstart
    · exact step hstep hstart

theorem Step.withdrawn_subset {make : Maker β} {h h' : Hall β} (hstep : Step make h h') :
    h.pool.withdrawn ⊆ h'.pool.withdrawn := by
  cases hstep with
  | desk hdesk => exact hdesk.withdrawn_subset

/-! ## Requests in a hall -/

/-- Every accepted request is in one place, apart from lost ones, which are withdrawn. -/
def Traced (h : Hall β) : Prop :=
  ∃ lost : List Task,
    h.ledger.accepted.Perm
      (h.pool.underWay ++ h.calls.flatMap Call.held ++ h.ledger.received ++ lost) ∧
    ∀ task ∈ lost, task.ticket ∈ h.pool.withdrawn

/-- What is kept throughout a run, whoever calls. -/
structure Sound (h : Hall β) : Prop where
  numbered : Numbered (h.ledger.accepted ++ h.calls.flatMap Call.offered) h.pool.nextTicket
  withdrawn : h.pool.withdrawn.reverse = h.ledger.cancelled.map (·.ticket)
  truthful : ∀ a ∈ h.pool.workers, a.Truthful h.pool.withdrawn
  traced : h.Traced

theorem flatMap_ready {f : Call β → List Task} (hf : f .ready = []) (callers : Nat) :
    (List.replicate callers .ready).flatMap f = [] := by
  refine List.flatMap_eq_nil_iff.mpr fun call hcall => ?_
  rw [List.eq_of_mem_replicate hcall, hf]

theorem start_sound (callers threads queueCapacity resultCapacity : Nat) :
    (start callers threads queueCapacity resultCapacity : Hall β).Sound where
  numbered := by
    simp only [start, flatMap_ready (f := Call.offered) rfl]
    exact ⟨List.forall_mem_nil _, .nil⟩
  withdrawn := rfl
  truthful := (Desk.start_orderly threads queueCapacity resultCapacity).truthful
  traced := by
    obtain ⟨lost, hperm, hlost⟩ := Desk.start_traced (β := β) threads queueCapacity resultCapacity
    refine ⟨lost, ?_, hlost⟩
    simp only [start, flatMap_ready (f := Call.held) rfl]
    exact hperm

theorem Step.numbered {make : Maker β} {h h' : Hall β} (hstep : Step make h h')
    (hn : Numbered (h.ledger.accepted ++ h.calls.flatMap Call.offered) h.pool.nextTicket) :
    Numbered (h'.ledger.accepted ++ h'.calls.flatMap Call.offered) h'.pool.nextTicket := by
  cases hstep with
  | @desk p call l d before after hdesk =>
    simp only [List.flatMap_append, List.flatMap_cons] at hn ⊢
    -- The other callers keep what they offer.
    rcases hdesk.requests with ⟨hnext, dropped, hperm⟩ | ⟨hnext, key, hperm⟩
    · have hrow : (l.accepted ++ (before.flatMap Call.offered ++ (call.offered ++
            after.flatMap Call.offered))).Perm
          (d.ledger.accepted ++ (before.flatMap Call.offered ++ (d.call.offered ++
            after.flatMap Call.offered)) ++ dropped) := by
        rw [List.perm_iff_count] at hperm ⊢
        intro t
        have hperm := hperm t
        simp only [List.count_append] at hperm ⊢
        omega
      rw [hnext]
      exact (hn.perm hrow).of_append_left
    · rw [hnext]
      refine (hn.cons key).perm ?_
      rw [List.perm_iff_count] at hperm ⊢
      intro t
      have hperm := hperm t
      simp only [List.count_append, List.count_cons] at hperm ⊢
      omega

theorem Step.traced {make : Maker β} {h h' : Hall β} (hstep : Step make h h')
    (htruthful : ∀ a ∈ h.pool.workers, a.Truthful h.pool.withdrawn) (ht : h.Traced) :
    h'.Traced := by
  obtain ⟨lost, hperm, hlost⟩ := ht
  cases hstep with
  | @desk p call l d before after hdesk =>
    obtain ⟨gone, hmoved, hgone⟩ := hdesk.places htruthful
    refine ⟨gone ++ lost, ?_, ?_⟩
    · rw [List.perm_iff_count] at hperm hmoved ⊢
      intro t
      have hperm := hperm t
      have hmoved := hmoved t
      simp only [Desk.places, List.flatMap_append, List.flatMap_cons, List.count_append]
        at hperm hmoved ⊢
      omega
    · refine List.forall_mem_append.mpr ⟨hgone, fun task htask => ?_⟩
      exact hdesk.withdrawn_subset (hlost task htask)

theorem Step.sound {make : Maker β} (honest : make.Truthful) {h h' : Hall β}
    (hstep : Step make h h') (hs : h.Sound) : h'.Sound where
  numbered := hstep.numbered hs.numbered
  withdrawn := by
    cases hstep with
    | desk hdesk => exact hdesk.withdrawn hs.withdrawn
  truthful := by
    cases hstep with
    | desk hdesk => exact hdesk.truthful honest hs.truthful
  traced := hstep.traced hs.truthful hs.traced

theorem play_sound {make : Maker β} (honest : make.Truthful)
    (callers threads queueCapacity resultCapacity : Nat) (moves : List (Nat × Move)) :
    ((start callers threads queueCapacity resultCapacity).play make moves).Sound :=
  play_invariant (fun hstep => hstep.sound honest) (start_sound ..) moves

namespace Sound

variable {h : Hall β}

theorem accepted_nodup (hs : h.Sound) : h.ledger.accepted.Nodup :=
  hs.numbered.nodup.of_append_left

/-- The places of a request are different ones, so it is received once. -/
theorem received_nodup (hs : h.Sound) : h.ledger.received.Nodup := by
  obtain ⟨lost, hperm, -⟩ := hs.traced
  have hplaces := hperm.nodup_iff.mp hs.accepted_nodup
  exact hplaces.of_append_left.of_append_right

theorem received_subset (hs : h.Sound) : h.ledger.received ⊆ h.ledger.accepted := by
  obtain ⟨lost, hperm, -⟩ := hs.traced
  intro task htask
  exact hperm.mem_iff.mpr (List.mem_append_left _ (List.mem_append_right _ htask))

theorem underWay_subset (hs : h.Sound) : h.pool.underWay ⊆ h.ledger.accepted := by
  obtain ⟨lost, hperm, -⟩ := hs.traced
  intro task htask
  refine hperm.mem_iff.mpr ?_
  exact List.mem_append_left _ (List.mem_append_left _ (List.mem_append_left _ htask))

/-- When all requests have been received, nothing is under way. -/
theorem underWay_eq_nil (hs : h.Sound) (hall : h.ledger.accepted ⊆ h.ledger.received) :
    h.pool.underWay = [] := by
  obtain ⟨lost, hperm, -⟩ := hs.traced
  have hnodup := hperm.nodup_iff.mp hs.accepted_nodup
  have hdisjoint := List.disjoint_of_nodup_append hnodup.of_append_left
  refine List.eq_nil_iff_forall_not_mem.mpr fun task htask => ?_
  have hreceived := hall (hs.underWay_subset htask)
  exact hdisjoint (List.mem_append_left _ htask) hreceived

end Sound

end Hall

end Landform.Pool
