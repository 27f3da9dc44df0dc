import Landform.Proofs.Pool.Custody

/-! # The order of the results

A pool with one worker is a line: the requests that have been received, the one in the caller's
hands, those among the results, the one with the worker and those in the queue. A request joins the
line at its end, and it moves along it or leaves it when it is withdrawn, but no request overtakes
another one. So results are received in the order in which their requests were accepted. -/

namespace Landform.Pool

variable {β : Type}

/-- A turn of the only worker takes the oldest task off the queue, or puts its result at the end of
the results, or gives its task up. -/
theorem Turn.line {make : Maker β} {p q : Pool β} {a b : Phase β} (h : Turn make p a b q) :
    (q.results.map (·.task) ++ [b].filterMap Phase.task? ++ q.queue).Sublist
      (p.results.map (·.task) ++ [a].filterMap Phase.task? ++ p.queue) := by
  cases h with
  | @take task rest h =>
    rw [h]
    simp only [Phase.task?, List.filterMap_cons, List.filterMap_nil, List.append_nil,
      List.append_assoc, List.cons_append, List.nil_append]
    exact .refl _
  | discard h => exact ((List.nil_sublist _).append_left _).append_right _
  | deliver h =>
    simp only [Phase.task?, List.filterMap_cons, List.filterMap_nil, List.append_nil,
      List.map_append, List.map_cons, List.map_nil]
    exact .refl _
  | _ => exact .refl _

namespace Desk

/-- The requests in line, the first one in front. -/
def line (d : Desk β) : List Task :=
  d.ledger.received ++ (d.call.held ++
    (d.pool.results.map (·.task) ++ d.pool.workers.filterMap Phase.task? ++ d.pool.queue))

/-- There is one worker, and the line is in the order of acceptance. -/
structure InLine (d : Desk β) : Prop where
  alone : d.pool.threads = 1
  sublist : d.line.Sublist d.ledger.accepted

theorem start_inLine {threads : Nat} (h : threads ≤ 1) (queueCapacity resultCapacity : Nat) :
    (start threads queueCapacity resultCapacity : Desk β).InLine where
  alone := by
    simp only [start, create, Pool.threads, List.length_replicate]
    omega
  sublist := by
    have hidle :
        (List.replicate (max threads 1) (Phase.idle : Phase β)).filterMap Phase.task? = [] :=
      List.filterMap_replicate_of_none rfl
    simp only [line, start, create, hidle]
    exact .refl _

section Steps

variable {make : Maker β} {d d' : Desk β}

theorem Step.threads (h : Step make d d') : d'.pool.threads = d.pool.threads := by
  cases h with
  | worker hworkers hturn =>
    simp only [Pool.threads, hworkers, List.length_append, List.length_cons]
  | _ => rfl

/-- What a step accepts joins the line at its end, and nobody in line overtakes another one. -/
theorem Step.line (h : Step make d d') (hone : d.pool.threads = 1) :
    ∃ joined, d'.ledger.accepted = d.ledger.accepted ++ joined ∧
      d'.line.Sublist (d.line ++ joined) := by
  -- Only the queue has an entrance. All other steps leave the accepted requests alone.
  have stays {a b c : List Task} (h : b.Sublist c) :
      ∃ joined, a = a ++ joined ∧ b.Sublist (c ++ joined) :=
    ⟨[], (List.append_nil _).symm, by rwa [List.append_nil]⟩
  unfold Desk.line
  cases h with
  | @worker p q call l before after a b hworkers hturn =>
    -- The row of workers is the one whose turn it is.
    have hlength : before.length + after.length = 0 := by
      simp only [Pool.threads, hworkers, List.length_append, List.length_cons] at hone
      omega
    obtain rfl : before = [] := List.length_eq_zero_iff.mp (by omega)
    obtain rfl : after = [] := List.length_eq_zero_iff.mp (by omega)
    rw [hworkers]
    exact stays ((hturn.line.append_left _).append_left _)
  | begin request => cases request <;> exact stays (.refl _)
  | @enqueue p l task h =>
    refine ⟨[task], rfl, ?_⟩
    simp only [Call.held, Ledger.received, Ledger.accept, List.append_assoc]
    exact .refl _
  | @take p l all result rest h =>
    refine stays ?_
    rw [h]
    exact .refl _
  | drop h => exact stays ((List.sublist_append_right ..).append_left _)
  | @release p l all result =>
    refine stays ?_
    have hheld : Call.held (if all then .receiving all else .ready : Call β) = [] := by
      cases all <;> rfl
    simp only [hheld, Ledger.received_deliver, List.append_assoc]
    exact .refl _
  | _ => exact stays (.refl _)

theorem Step.inLine (h : Step make d d') (hd : d.InLine) : d'.InLine := by
  obtain ⟨joined, haccepted, hline⟩ := h.line hd.alone
  refine ⟨h.threads.trans hd.alone, ?_⟩
  rw [haccepted]
  exact hline.trans (hd.sublist.append_right _)

end Steps

/-- Where the front of the line has been received, nobody in the rest of it was accepted before
anybody who has been received. -/
theorem notMem_of_precedes {accepted received rest : List Task} (hnodup : accepted.Nodup)
    (hline : (received ++ rest).Sublist accepted) {earlier task : Task}
    (hbefore : [earlier, task].Sublist accepted) (htask : task ∈ received) : earlier ∉ rest := by
  intro hearlier
  -- The order of acceptance is cut between the two requests, and the line is cut with it.
  obtain ⟨former, latter, rfl, hformer, hlatter⟩ :=
    List.append_sublist_iff.mp (show ([earlier] ++ [task]).Sublist accepted from hbefore)
  obtain ⟨front, back, hcut, hfront, hback⟩ := List.sublist_append_iff.mp hline
  have hdisjoint := List.disjoint_of_nodup_append hnodup
  have hearlier' : earlier ∈ former := List.singleton_sublist.mp hformer
  have htask' : task ∈ latter := List.singleton_sublist.mp hlatter
  rcases List.append_eq_append_iff.mp hcut with ⟨c, hc, -⟩ | ⟨c, -, hc⟩
  · refine hdisjoint (hfront.subset ?_) htask'
    rw [hc]
    exact List.mem_append_left _ htask
  · refine hdisjoint hearlier' (hback.subset ?_)
    rw [hc]
    exact List.mem_append_right _ hearlier

/-- In every run of a pool of a generator with one worker and a caller: the results are received in
the order in which their requests were accepted, and when a request has been received, every request
that was accepted before it has been received as well or has been cancelled. -/
theorem received_in_order (g : Generator) (schedule : Schedule) {threads : Nat}
    (hone : threads ≤ 1) (queueCapacity resultCapacity : Nat) (moves : List Move) :
    let d : Desk Chunk :=
      (start threads queueCapacity resultCapacity).play (g.maker schedule) moves
    d.ledger.received.Sublist d.ledger.accepted ∧
      ∀ earlier task, [earlier, task].Sublist d.ledger.accepted → task ∈ d.ledger.received →
        earlier ∈ d.ledger.received ∨ earlier ∈ d.ledger.cancelled := by
  intro d
  have h : d.Sound := play_sound (g.maker_truthful schedule) ..
  have hline : d.InLine := play_invariant (fun hstep => hstep.inLine) (start_inLine hone ..) moves
  refine ⟨(List.sublist_append_left ..).trans hline.sublist, ?_⟩
  intro earlier task hbefore htask
  have haccepted : earlier ∈ d.ledger.accepted := hbefore.subset (List.mem_cons_self ..)
  have hnotLater := notMem_of_precedes h.orderly.accepted_nodup hline.sublist hbefore htask
  simp only [List.mem_append, not_or] at hnotLater
  -- It is not in the rest of the line, so it is received or lost, and what is lost is withdrawn.
  obtain ⟨lost, hplaces, hlost⟩ := h.traced
  have hplace := hplaces.mem_iff.mp haccepted
  simp only [underWay, List.mem_append] at hplace
  have hcancelled : earlier ∈ lost → earlier ∈ d.ledger.cancelled :=
    fun hmem => (h.mem_withdrawn_iff haccepted).mp (hlost earlier hmem)
  tauto

/-- The cancelled request was accepted first and never received, and the new one of the same key was
received. -/
theorem resubmission_received_in_order :
    let d : Desk Chunk := (start 1 1 1).play (Generator.standard.maker .forward)
      (Move.resubmission ++ Move.completion)
    [(⟨farKey, 0⟩ : Task), ⟨farKey, 1⟩].Sublist d.ledger.accepted ∧
      ⟨farKey, 1⟩ ∈ d.ledger.received ∧ d.ledger.received.Sublist d.ledger.accepted ∧
      (⟨farKey, 0⟩ ∈ d.ledger.received ∨ ⟨farKey, 0⟩ ∈ d.ledger.cancelled) := by
  intro d
  have hbefore : [(⟨farKey, 0⟩ : Task), ⟨farKey, 1⟩].Sublist d.ledger.accepted := by
    decide +kernel
  have htask : ⟨farKey, 1⟩ ∈ d.ledger.received := by decide +kernel
  obtain ⟨hsublist, hearlier⟩ :=
    received_in_order Generator.standard .forward (Nat.le_refl 1) 1 1
      (Move.resubmission ++ Move.completion)
  exact ⟨hbefore, htask, hsublist, hearlier _ _ hbefore htask⟩

end Desk

end Landform.Pool
