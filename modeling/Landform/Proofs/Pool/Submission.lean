import Landform.Proofs.Pool.Accounts

/-! # Submissions

A submission registers its key and counts its task before it offers the task to the queue, and takes
both back where there is no room. The workers go on in between. Still it is as if the whole
submission were made at one moment, since what it changes and what the workers change do not get in
each other's way. A refused submission leaves nothing behind, and an accepted one adds its request
to the register, to the end of the queue and to the tasks in flight, and nothing else. -/

namespace Landform.Pool

variable {β : Type}

/-! ## In one go -/

/-- The request that a submission of a key makes. -/
abbrev newTask (p : Pool β) (key : ChunkKey) : Task := ⟨key, p.nextTicket⟩

/-- The pool with another register and another next ticket, and with so many more tasks in
flight. -/
def booked (p : Pool β) (pending : List Task) (next : Ticket) (more : Nat) : Pool β :=
  { p with pending, nextTicket := next, inFlight := p.inFlight + more }

/-- The pool with the request of a submission in the register, and with so many more tasks in
flight. -/
def offered (p : Pool β) (key : ChunkKey) (more : Nat) : Pool β :=
  p.booked (p.pending ++ [p.newTask key]) (p.nextTicket + 1) more

section Alone

variable {p : Pool β} {key : ChunkKey}

theorem enqueue?_of_room {task : Task} (h : p.queue.length < p.queueCapacity) :
    p.enqueue? task = some { p with queue := p.queue ++ [task] } := if_pos h

theorem enqueue?_of_full {task : Task} (h : ¬p.queue.length < p.queueCapacity) :
    p.enqueue? task = none := if_neg h

theorem register?_of_isPending (h : p.isPending key = true) : p.register? key = none := if_pos h

theorem register?_of_not_isPending (h : p.isPending key = false) :
    p.register? key = some (p.newTask key, p.offered key 0) :=
  if_neg (Bool.eq_false_iff.mp h)

/-- Taking a key off again leaves the register as it was before the key was added. -/
theorem filter_register (h : p.isPending key = false) :
    (p.pending ++ [p.newTask key]).filter (·.key != key) = p.pending := by
  have hothers : p.pending.filter (·.key != key) = p.pending := by
    refine List.filter_eq_self.mpr fun task htask => bne_iff_ne.mpr fun hkey => ?_
    exact Desk.key_notMem_of_isPending h (List.mem_map.mpr ⟨task, htask, hkey⟩)
  rw [List.filter_append, hothers, List.filter_cons_of_neg (by simp), List.filter_nil,
    List.append_nil]

theorem unregister_offered (h : p.isPending key = false) (more : Nat) :
    (p.offered key more).unregister key = p.booked p.pending (p.nextTicket + 1) more := by
  simp only [offered, booked, unregister, filter_register h]

/-- The key is registered, and nothing happens. -/
theorem submit_of_isPending (h : p.isPending key = true) :
    p.submit key = (.error (.alreadyPending key), p) := by
  simp only [submit, register?_of_isPending h]

/-- The queue has no room, and only the ticket is used up. -/
theorem submit_of_full (h : p.isPending key = false)
    (hfull : ¬p.queue.length < p.queueCapacity) :
    p.submit key = (.error (.queueFull key), p.booked p.pending (p.nextTicket + 1) 0) := by
  have hqueue : (p.offered key 0).enter.enqueue? (p.newTask key) = none := enqueue?_of_full hfull
  simp only [submit, register?_of_not_isPending h, hqueue]
  exact congrArg (Prod.mk _) (unregister_offered h 0)

theorem submit_of_room (h : p.isPending key = false) (hroom : p.queue.length < p.queueCapacity) :
    p.submit key = (.ok (),
      { p.offered key 1 with queue := p.queue ++ [p.newTask key] }) := by
  have hqueue : (p.offered key 0).enter.enqueue? (p.newTask key) = some _ := enqueue?_of_room hroom
  simp only [submit, register?_of_not_isPending h, hqueue]
  rfl

end Alone

/-! ## Workers on their own -/

/-- The pool after these workers, one after the other, have taken a step, if they could. -/
def advance (make : Maker β) (p : Pool β) (steps : List Nat) : Pool β :=
  steps.foldl (fun p i => (p.step? make i).getD p) p

/-- The tasks in flight are those in the queue and those of the workers. -/
def CountsInFlight (p : Pool β) : Prop :=
  p.inFlight = p.queue.length + p.workers.countP Phase.isBusy

section Workers

variable {make : Maker β} {p q : Pool β} {i : Nat}

theorem advance_append (before after : List Nat) :
    p.advance make (before ++ after) = (p.advance make before).advance make after :=
  List.foldl_append

/-- What every step of a worker keeps is kept by all of them. -/
theorem advance_invariant {motive : Pool β → Prop}
    (step : ∀ {p q : Pool β} {i : Nat}, p.step? make i = some q → motive p → motive q)
    (h : motive p) (steps : List Nat) : motive (p.advance make steps) := by
  induction steps generalizing p with
  | nil => exact h
  | cons i steps ih =>
    refine ih ?_
    change motive ((p.step? make i).getD p)
    cases hstep : p.step? make i with
    | none => exact h
    | some q => exact step hstep h

/-- Workers leave the register and the tickets alone. -/
theorem advance_frame (steps : List Nat) :
    (p.advance make steps).pending = p.pending ∧
      (p.advance make steps).nextTicket = p.nextTicket := by
  refine advance_invariant
    (motive := fun q => q.pending = p.pending ∧ q.nextTicket = p.nextTicket) ?_ ⟨rfl, rfl⟩ steps
  rintro q r i hstep ⟨hpending, hnext⟩
  obtain ⟨before, a, after, b, q', -, hturn, rfl⟩ := step?_eq_some hstep
  exact ⟨hturn.frame.1.trans hpending, hturn.frame.2.2.trans hnext⟩

theorem advance_countsInFlight (h : p.CountsInFlight) (steps : List Nat) :
    (p.advance make steps).CountsInFlight := by
  refine advance_invariant (fun {q r i} hstep hq => ?_) h steps
  obtain ⟨before, a, after, b, q', hworkers, hturn, rfl⟩ := step?_eq_some hstep
  exact hturn.inFlight (n := 0) hworkers hq

theorem isPending_advance (make : Maker β) (p : Pool β) (steps : List Nat) (key : ChunkKey) :
    (p.advance make steps).isPending key = p.isPending key := by
  simp only [isPending, registered?, (advance_frame steps).1]

/-- A step of a worker and a change of the books can trade places. -/
theorem step?_booked (h : p.CountsInFlight) (pending : List Task) (next : Ticket) (more : Nat) :
    (p.booked pending next more).step? make i =
      (p.step? make i).map (·.booked pending next more) := by
  unfold step?
  change (p.workers[i]?).bind _ = _
  cases ha : p.workers[i]? with
  | none => rfl
  | some a =>
    cases a with
    | idle =>
      cases hqueue : p.queue <;> simp [stepFrom?, dequeue?, booked, hqueue, withPhase]
    | delivering result =>
      by_cases hroom : p.results.length < p.resultCapacity <;>
        simp [stepFrom?, deliver?, booked, hroom, withPhase]
    | leaving =>
      -- The worker itself is busy, so the number can be lowered before or after it is raised.
      have hbusy : 0 < p.workers.countP Phase.isBusy :=
        List.countP_pos_iff.mpr ⟨_, List.mem_of_getElem? ha, rfl⟩
      have hpos : 0 < p.inFlight := by
        rw [h]
        omega
      have hcount : p.inFlight + more - 1 = p.inFlight - 1 + more := by omega
      simp only [Option.bind_some, stepFrom?, Option.map_some, booked, leave, withPhase, hcount]
    | _ => rfl

theorem advance_booked (h : p.CountsInFlight) (pending : List Task) (next : Ticket) (more : Nat)
    (steps : List Nat) :
    (p.booked pending next more).advance make steps =
      (p.advance make steps).booked pending next more := by
  induction steps generalizing p with
  | nil => rfl
  | cons i steps ih =>
    have hstep : ((p.booked pending next more).step? make i).getD (p.booked pending next more) =
        ((p.step? make i).getD p).booked pending next more := by
      rw [step?_booked h]
      cases p.step? make i <;> rfl
    -- The number in flight still fits after the step, which the rest of the steps relies on.
    have hcounts : (p.advance make [i]).CountsInFlight := advance_countsInFlight h [i]
    have hnext := ih hcounts
    unfold advance at hnext ⊢
    rw [List.foldl_cons, hstep]
    exact hnext

theorem advance_offered (h : p.CountsInFlight) (key : ChunkKey) (more : Nat) (steps : List Nat) :
    (p.offered key more).advance make steps = (p.advance make steps).offered key more := by
  unfold offered newTask
  rw [advance_booked h, (advance_frame steps).1, (advance_frame steps).2]

theorem newTask_advance (make : Maker β) (p : Pool β) (steps : List Nat) (key : ChunkKey) :
    (p.advance make steps).newTask key = p.newTask key := by
  rw [newTask, (advance_frame steps).2]

end Workers

/-- The number of steps that remain to a submission at most. -/
def Call.remaining : Call β → Nat
  | submitting _ => 5
  | registered _ => 4
  | entered _ => 3
  | refused _ => 2
  | left _ => 1
  | _ => 0

/-- The worker whose move it is. -/
def Move.worker? : Move → Option Nat
  | worker i => some i
  | _ => none

namespace Desk

/-! ## With workers in between -/

/-- What a submission returns with at its next step, if it does. -/
def reply? (d : Desk β) : Option (Except SubmitError Unit) :=
  match d.call with
  | .submitting key => if d.pool.isPending key then some (.error (.alreadyPending key)) else none
  | .entered _ => if d.pool.queue.length < d.pool.queueCapacity then some (.ok ()) else none
  | .left task => some (.error (.queueFull task.key))
  | _ => none

/-- What submissions return with in the course of the moves. -/
def replies (make : Maker β) (d : Desk β) : List Move → List (Except SubmitError Unit)
  | [] => []
  | .proceed :: moves => d.reply?.toList ++ d.proceed.replies make moves
  | m :: moves => (d.move make m).replies make moves

/-- How far a submission is that was started with this pool and this ledger: the workers that have
taken a step since, what the submission has returned with, and the desk by now. -/
inductive Submitting (make : Maker β) (p : Pool β) (l : Ledger β) (key : ChunkKey) :
    List Nat → List (Except SubmitError Unit) → Desk β → Prop where
  | begun {steps : List Nat} :
    Submitting make p l key steps [] ⟨p.advance make steps, .submitting key, l⟩
  | registered {steps : List Nat} (h : p.isPending key = false) :
    Submitting make p l key steps []
      ⟨(p.advance make steps).offered key 0, .registered (p.newTask key), l⟩
  | entered {steps : List Nat} (h : p.isPending key = false) :
    Submitting make p l key steps []
      ⟨(p.advance make steps).offered key 1, .entered (p.newTask key), l⟩
  /-- The queue had no room when the first part of the steps was taken. -/
  | refused {before after : List Nat} (h : p.isPending key = false)
    (hfull : ¬(p.advance make before).queue.length < (p.advance make before).queueCapacity) :
    Submitting make p l key (before ++ after) []
      ⟨(p.advance make (before ++ after)).offered key 1, .refused (p.newTask key), l⟩
  | left {before after : List Nat} (h : p.isPending key = false)
    (hfull : ¬(p.advance make before).queue.length < (p.advance make before).queueCapacity) :
    Submitting make p l key (before ++ after) []
      ⟨(p.advance make (before ++ after)).offered key 0, .left (p.newTask key), l⟩
  /-- It is as if the submission was made in one go when the first part of the steps was taken. -/
  | returned {before after : List Nat} {answer : Except SubmitError Unit} {q : Pool β}
    (h : (p.advance make before).submit key = (answer, q)) :
    Submitting make p l key (before ++ after) [answer]
      ⟨q.advance make after, .ready,
        if answer.toBool then l.accept (p.newTask key) else l⟩

section Submitting

variable {make : Maker β} {p : Pool β} {l : Ledger β} {key : ChunkKey} {steps : List Nat}
  {answers : List (Except SubmitError Unit)} {d : Desk β}

theorem begin_of_ready (h : d.call = .ready) (request : Request) :
    d.begin request = ⟨d.pool, request.call, d.ledger⟩ := by
  simp only [begin, h]

theorem move_worker (i : Nat) :
    d.move make (.worker i) = ⟨d.pool.advance make [i], d.call, d.ledger⟩ := by
  simp only [move, advance, List.foldl_cons, List.foldl_nil]
  cases d.pool.step? make i <;> rfl

/-- Between two steps of the submission, a worker takes its step as if there were none. -/
theorem Submitting.worker (hp : p.CountsInFlight) (h : Submitting make p l key steps answers d)
    (i : Nat) : Submitting make p l key (steps ++ [i]) answers (d.move make (.worker i)) := by
  have hoffered (steps : List Nat) (more : Nat) :
      ((p.advance make steps).offered key more).advance make [i] =
        (p.advance make (steps ++ [i])).offered key more := by
    rw [advance_offered (advance_countsInFlight hp steps), advance_append]
  rw [move_worker]
  cases h with
  | begun =>
    rw [← advance_append]
    exact .begun
  | registered h =>
    rw [hoffered]
    exact .registered h
  | entered h =>
    rw [hoffered]
    exact .entered h
  | refused h hfull =>
    rw [hoffered, List.append_assoc]
    exact .refused h hfull
  | left h hfull =>
    rw [hoffered, List.append_assoc]
    exact .left h hfull
  | returned h =>
    rw [← advance_append, List.append_assoc]
    exact .returned h

theorem Submitting.now {answer : Except SubmitError Unit} {q : Pool β}
    (h : (p.advance make steps).submit key = (answer, q)) :
    Submitting make p l key steps [answer]
      ⟨q, .ready, if answer.toBool then l.accept (p.newTask key) else l⟩ := by
  have hreturned : Submitting make p l key (steps ++ []) [answer]
      ⟨q.advance make [], .ready, if answer.toBool then l.accept (p.newTask key) else l⟩ :=
    .returned h
  rw [List.append_nil] at hreturned
  exact hreturned

/-- With every step of its own, the submission comes closer to its answer. -/
theorem Submitting.proceed (hp : p.CountsInFlight)
    (h : Submitting make p l key steps answers d) :
    Submitting make p l key steps (answers ++ d.reply?.toList) d.proceed := by
  have hpending := isPending_advance make p steps key
  have hnew := newTask_advance make p steps key
  cases h with
  | begun =>
    cases h : p.isPending key with
    | true =>
      rw [h] at hpending
      rw [proceed_submitting_none (register?_of_isPending hpending)]
      simp only [reply?, hpending, if_true]
      exact .now (submit_of_isPending hpending)
    | false =>
      rw [h] at hpending
      rw [proceed_submitting_some (register?_of_not_isPending hpending), hnew]
      simp only [reply?, hpending, Bool.false_eq_true, if_false]
      exact .registered h
  | registered h => exact .entered h
  | entered h =>
    rw [h] at hpending
    -- The queue decides at this very moment, so this is when the submission is made in one go.
    by_cases hroom : (p.advance make steps).queue.length < (p.advance make steps).queueCapacity
    · have hone := submit_of_room hpending hroom
      rw [hnew] at hone
      have hqueue : ((p.advance make steps).offered key 1).enqueue? (p.newTask key) = some _ :=
        enqueue?_of_room hroom
      have hreply : reply? ⟨(p.advance make steps).offered key 1, .entered (p.newTask key), l⟩ =
          some (.ok ()) := if_pos hroom
      rw [proceed_entered_some hqueue, hreply]
      exact .now hone
    · have hqueue : ((p.advance make steps).offered key 1).enqueue? (p.newTask key) = none :=
        enqueue?_of_full hroom
      have hreply : reply? ⟨(p.advance make steps).offered key 1, .entered (p.newTask key), l⟩ =
          none := if_neg hroom
      rw [proceed_entered_none hqueue, hreply]
      have hrefused : Submitting make p l key (steps ++ []) []
          ⟨(p.advance make (steps ++ [])).offered key 1, .refused (p.newTask key), l⟩ :=
        .refused h hroom
      rw [List.append_nil] at hrefused
      exact hrefused
  | refused h hfull => exact .left h hfull
  | @left before after h hfull =>
    -- The queue had no room earlier on. The submission is made in one go there, and what the
    -- workers did since then comes after it.
    have hbefore := (isPending_advance make p before key).trans h
    have hpool : ((p.advance make (before ++ after)).offered key 0).unregister key =
        ((p.advance make before).booked (p.advance make before).pending
          ((p.advance make before).nextTicket + 1) 0).advance make after := by
      rw [advance_booked (advance_countsInFlight hp before), unregister_offered (hpending.trans h),
        advance_append, (advance_frame after).1, (advance_frame after).2]
    have hreturned : Submitting make p l key (before ++ after) [.error (.queueFull key)]
        ⟨_, .ready, l⟩ := .returned (submit_of_full hbefore hfull)
    rw [← hpool] at hreturned
    exact hreturned
  | returned h => exact .returned h

theorem Submitting.remaining_proceed (h : Submitting make p l key steps answers d) :
    d.proceed.call.remaining ≤ d.call.remaining - 1 := by
  cases h with
  | begun =>
    cases hregister : (p.advance make steps).register? key with
    | none =>
      rw [proceed_submitting_none hregister]
      exact Nat.zero_le _
    | some registered =>
      rw [proceed_submitting_some hregister]
      exact Nat.le_refl _
  | entered h =>
    cases hqueue : ((p.advance make steps).offered key 1).enqueue? (p.newTask key) with
    | none =>
      rw [proceed_entered_none hqueue]
      exact Nat.le_refl _
    | some q =>
      rw [proceed_entered_some hqueue]
      exact Nat.zero_le _
  | _ => exact Nat.le_refl _

/-- The workers and the caller go on, one step after the other, and every step of the caller is one
step less for the submission. -/
theorem Submitting.play (hp : p.CountsInFlight) (h : Submitting make p l key steps answers d)
    {moves : List Move} (hmoves : ∀ request, .call request ∉ moves) :
    Submitting make p l key (steps ++ moves.filterMap Move.worker?)
        (answers ++ d.replies make moves) (d.play make moves) ∧
      (d.play make moves).call.remaining ≤ d.call.remaining - moves.count .proceed := by
  induction moves generalizing steps answers d with
  | nil =>
    simp only [List.filterMap_nil, replies, List.append_nil]
    exact ⟨h, Nat.le_refl _⟩
  | cons m moves ih =>
    have hrest : ∀ request, .call request ∉ moves :=
      fun request hmem => hmoves request (List.mem_cons_of_mem _ hmem)
    cases m with
    | worker i =>
      obtain ⟨hnext, hremaining⟩ := ih (h.worker hp i) hrest
      have hcall : (d.move make (.worker i)).call = d.call := by rw [move_worker]
      rw [List.append_assoc] at hnext
      rw [hcall] at hremaining
      rw [List.count_cons_of_ne (by exact Move.noConfusion)]
      exact ⟨hnext, hremaining⟩
    | call request => exact absurd (List.mem_cons_self ..) (hmoves request)
    | proceed =>
      obtain ⟨hnext, hremaining⟩ := ih (h.proceed hp) hrest
      have hone := h.remaining_proceed
      rw [List.append_assoc] at hnext
      refine ⟨hnext, ?_⟩
      rw [List.count_cons_self]
      change (d.proceed.play make moves).call.remaining ≤ _
      omega

theorem Submitting.ready_of_remaining (h : Submitting make p l key steps answers d)
    (hzero : d.call.remaining = 0) : d.call = .ready := by
  cases h with
  | returned h => rfl
  | _ => cases hzero

theorem play_workers (d : Desk β) (steps : List Nat) :
    d.play make (steps.map .worker) = ⟨d.pool.advance make steps, d.call, d.ledger⟩ := by
  induction steps generalizing d with
  | nil => rfl
  | cons i steps ih =>
    have hnext := ih (d.move make (.worker i))
    rw [move_worker] at hnext
    rw [List.map_cons]
    change (d.move make (.worker i)).play make _ = _
    rw [move_worker]
    exact hnext

/-- A submission that has returned was made at one moment as far as anybody can tell. -/
theorem Submitting.at_once (h : Submitting make p l key steps answers d)
    (hready : d.call = .ready) :
    ∃ first last answer q, steps = first ++ last ∧ (p.advance make first).submit key = (answer, q) ∧
      answers = [answer] ∧
      d = ⟨q.advance make last, .ready,
        if answer.toBool then l.accept (p.newTask key) else l⟩ := by
  cases h with
  | @returned before after answer q h => exact ⟨before, after, answer, q, rfl, h, rfl, rfl⟩
  | _ => cases hready

end Submitting

/-! ## What a submission does -/

section Ready

variable {d : Desk β}

theorem InFlight.countsInFlight (h : d.InFlight) (hready : d.call = .ready) :
    d.pool.CountsInFlight := by
  unfold InFlight at h
  rw [hready] at h
  exact h

/-- The next request was never there before. -/
theorem Orderly.newTask_notMem (h : d.Orderly) (key : ChunkKey) :
    d.pool.newTask key ∉ d.ledger.accepted := by
  intro hmem
  have hold := h.fresh _ (List.mem_append_left _ hmem)
  exact Nat.lt_irrefl _ hold

/-- Whatever is withdrawn was given its ticket before. -/
theorem Sound.newTask_not_withdrawn (h : d.Sound) (key : ChunkKey) :
    d.pool.isWithdrawn (d.pool.newTask key).ticket = false := by
  refine isWithdrawn_eq_false.mpr fun hmem => ?_
  obtain ⟨other, hother, hticket⟩ := h.orderly.mem_withdrawn.mp hmem
  have hold := h.orderly.fresh other (h.recorded.mem_iff.mpr (List.mem_append_right _ hother))
  exact absurd hticket (Nat.ne_of_lt hold)

theorem HasRoom.submit {queueCapacity resultCapacity : Nat}
    (h : d.HasRoom queueCapacity resultCapacity) (key : ChunkKey) :
    d.pool.submit key =
      if d.pool.isPending key then (.error (.alreadyPending key), d.pool)
      else if d.pool.queue.length = queueCapacity then
        (.error (.queueFull key), { d.pool with nextTicket := d.pool.nextTicket + 1 })
      else (.ok (), { d.pool with
        pending := d.pool.pending ++ [d.pool.newTask key]
        queue := d.pool.queue ++ [d.pool.newTask key]
        inFlight := d.pool.inFlight + 1
        nextTicket := d.pool.nextTicket + 1 }) := by
  obtain ⟨⟨hcapacity, hlength⟩, -⟩ := h
  cases hpending : d.pool.isPending key with
  | true => exact submit_of_isPending hpending
  | false =>
    simp only [Bool.false_eq_true, if_false]
    split
    next hfull => exact submit_of_full hpending (by omega)
    next hfree => exact submit_of_room hpending (by omega)

theorem submitting_begin (make : Maker β) (hready : d.call = .ready) (key : ChunkKey) :
    Submitting make d.pool d.ledger key [] [] (d.begin (.submit key)) := by
  rw [begin_of_ready hready]
  exact .begun

/-- A submission returns after five steps of its own at most. -/
theorem ready_of_five {make : Maker β} {moves : List Move} (hcounts : d.pool.CountsInFlight)
    (hready : d.call = .ready) (key : ChunkKey) (hmoves : ∀ request, .call request ∉ moves)
    (hfive : 5 ≤ moves.count .proceed) :
    ((d.begin (.submit key)).play make moves).call = .ready := by
  obtain ⟨hlater, hremaining⟩ := (submitting_begin make hready key).play hcounts hmoves
  have hfirst : (d.begin (.submit key)).call.remaining = 5 := by
    rw [begin_of_ready hready]
    rfl
  exact hlater.ready_of_remaining (by omega)

end Ready

/-- In every state that a pool of a generator and its caller can reach between two calls: a
submission of a key finds the key registered, and changes nothing; or it finds the queue full, and
changes nothing but the ticket of the next request; or it is accepted, and adds a request that was
never there before to the register and to the end of the queue, and one task in flight, and changes
nothing else. And when the workers go on during the submission, it returns after five steps of its
own at most, and its answer and all that it leaves behind are as if it had been made in one go at
one moment between the steps of the workers, in a state of this kind. -/
theorem submit_exact (g : Generator) (schedule : Schedule)
    (threads queueCapacity resultCapacity : Nat) (moves : List Move) (key : ChunkKey) :
    let make := g.maker schedule
    let d : Desk Chunk := (start threads queueCapacity resultCapacity).play make moves
    let task : Task := ⟨key, d.pool.nextTicket⟩
    d.call = .ready →
      d.pool.submit key =
        (if d.pool.isPending key then (.error (.alreadyPending key), d.pool)
        else if d.pool.queue.length = max queueCapacity 1 then
          (.error (.queueFull key), { d.pool with nextTicket := d.pool.nextTicket + 1 })
        else (.ok (), { d.pool with
          pending := d.pool.pending ++ [task]
          queue := d.pool.queue ++ [task]
          inFlight := d.pool.inFlight + 1
          nextTicket := d.pool.nextTicket + 1 })) ∧
      task ∉ d.ledger.accepted ∧ d.pool.isWithdrawn task.ticket = false ∧
      ∀ during : List Move, (∀ request, .call request ∉ during) →
        let e := (d.begin (.submit key)).play make during
        (5 ≤ during.count .proceed → e.call = .ready) ∧
        (e.call = .ready →
          ∃ first last : List Nat, during.filterMap Move.worker? = first ++ last ∧
            let c := d.play make (first.map .worker)
            let answer := (c.pool.submit key).1
            (d.begin (.submit key)).replies make during = [answer] ∧
            e = (⟨(c.pool.submit key).2, .ready,
              if answer.toBool then c.ledger.accept task else c.ledger⟩ : Desk Chunk).play make
                (last.map .worker)) := by
  intro make d task hready
  have h : d.Sound := play_sound (g.maker_truthful schedule) ..
  have hflight : d.InFlight :=
    play_invariant (fun hstep => hstep.inFlight) (start_inFlight ..) moves
  have hroom : d.HasRoom _ _ := play_invariant (fun hstep => hstep.hasRoom) (start_hasRoom ..) moves
  have hcounts := hflight.countsInFlight hready
  refine ⟨hroom.submit key, h.orderly.newTask_notMem key, h.newTask_not_withdrawn key, ?_⟩
  intro during hduring e
  refine ⟨ready_of_five hcounts hready key hduring, fun hreturned => ?_⟩
  obtain ⟨hlater, -⟩ := (submitting_begin make hready key).play hcounts hduring
  obtain ⟨first, last, answer, q, hsteps, hone, hanswers, he⟩ := hlater.at_once hreturned
  refine ⟨first, last, hsteps, ?_⟩
  simp only [play_workers, hone]
  exact ⟨hanswers, he⟩

/-- The only place of the queue is taken, so another key is refused and leaves only its ticket
behind. It is accepted when the worker takes the waiting task in the middle of the submission, as it
would be at some moment before or after that. -/
theorem fullQueue_submit_exact :
    let make := Generator.standard.maker .forward
    let key : ChunkKey := ⟨0, 0, 0, .overworld⟩
    let d : Desk Chunk := (start 1 1 1).play make (Move.submission farKey)
    let during : List Move := [.proceed, .proceed, .worker 0, .proceed]
    d.pool.submit key = (.error (.queueFull key), { d.pool with nextTicket := 2 }) ∧
      (d.begin (.submit key)).replies make during = [.ok ()] ∧
      ∃ first last : List Nat, [0] = first ++ last ∧
        ((d.play make (first.map .worker)).pool.submit key).1 = .ok () := by
  intro make key d during
  obtain ⟨hone, -, -, hduring⟩ :=
    submit_exact Generator.standard .forward 1 1 1 (Move.submission farKey) key rfl
  have hcalls : ∀ request, .call request ∉ during := by
    intro request hmem
    simp [during] at hmem
  have hreplies : (d.begin (.submit key)).replies make during = [.ok ()] := rfl
  obtain ⟨first, last, hsteps, hanswer, -⟩ := (hduring during hcalls).2 rfl
  refine ⟨hone.trans rfl, hreplies, first, last, hsteps, ?_⟩
  exact List.singleton_inj.mp (hanswer.symm.trans hreplies)

end Desk

end Landform.Pool
