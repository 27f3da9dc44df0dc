import Landform.Proofs.Pool.Pending

/-! # Receiving results

A caller receives the next result, or all results that are there. Either way the oldest results are
taken off, those of withdrawn requests are dropped, and the requests of the others are taken off the
register. What is received first and what is received next add up, so it makes no difference in
which portions the results are received. A request that was made again stays registered when the
result of the withdrawn one is dropped. -/

namespace Landform.Pool

variable {β : Type}

/-! ## Both ways -/

/-- Those of the results that are for their callers. -/
def live (p : Pool β) (results : List (TaskResult β)) : List (TaskResult β) :=
  results.filter fun r => !p.isWithdrawn r.task.ticket

/-- The pool where the requests of the delivered results are not registered any more, and only the
rest of the results is left. -/
def handOver (p : Pool β) (delivered rest : List (TaskResult β)) : Pool β :=
  { p with
    results := rest
    pending := p.pending.filter fun task => task ∉ delivered.map (·.task) }

/-- The oldest results are taken off a pool and handed over, apart from those that are dropped. -/
def Received (p : Pool β) (delivered : List (TaskResult β)) (q : Pool β) : Prop :=
  ∃ gone rest, p.results = gone ++ rest ∧ delivered = p.live gone ∧ q = p.handOver delivered rest

/-- The results of so many calls for the next one, one after the other. -/
def recvTimes : Nat → Pool β → List (TaskResult β) × Pool β
  | 0, p => ([], p)
  | count + 1, p =>
    let (results, q) := recvTimes count p.recv.2
    (p.recv.1.toList ++ results, q)

section Received

variable {p q s : Pool β} {delivered more rest rest' : List (TaskResult β)}

theorem handOver_nil : p.handOver [] rest = { p with results := rest } := by
  have hsame : (p.pending.filter fun task => task ∉ ([] : List (TaskResult β)).map (·.task)) =
      p.pending := List.filter_eq_self.mpr fun task _ => rfl
  rw [handOver, hsame]

theorem handOver_singleton (result : TaskResult β) :
    p.handOver [result] rest = release { p with results := rest } result.task := by
  have hsame : (p.pending.filter fun task => task ∉ [result].map (·.task)) =
      p.pending.filter (· != result.task) := by
    refine List.filter_congr fun task _ => ?_
    simp only [List.map_cons, List.map_nil, List.mem_singleton, bne, beq_eq_decide, decide_not]
  rw [handOver, hsame]
  rfl

/-- Handing over twice is handing over both. -/
theorem handOver_handOver :
    (p.handOver delivered rest).handOver more rest' = p.handOver (delivered ++ more) rest' := by
  have hsame : ((p.handOver delivered rest).pending.filter fun task => task ∉ more.map (·.task)) =
      p.pending.filter fun task => task ∉ (delivered ++ more).map (·.task) := by
    rw [handOver, List.filter_filter]
    refine List.filter_congr fun task _ => ?_
    simp only [List.map_append, List.mem_append, not_or, Bool.decide_and]
    exact Bool.and_comm ..
  simp only [handOver] at hsame ⊢
  rw [hsame]

theorem Received.refl (p : Pool β) : Received p [] p :=
  ⟨[], p.results, rfl, rfl, handOver_nil.symm⟩

theorem Received.trans (h : Received p delivered q) (h' : Received q more s) :
    Received p (delivered ++ more) s := by
  obtain ⟨gone, rest, hresults, rfl, rfl⟩ := h
  obtain ⟨gone', rest', hrest, rfl, rfl⟩ := h'
  -- Receiving withdraws nothing, so what is dropped later is what would have been dropped at once.
  refine ⟨gone ++ gone', rest', ?_, ?_, handOver_handOver⟩
  · rw [hresults, List.append_assoc]
    exact congrArg (gone ++ ·) hrest
  · exact (List.filter_append ..).symm

/-- All results are received in one way only. -/
theorem Received.eq_of_results_eq_nil (h : Received p delivered q) (hq : q.results = []) :
    delivered = p.live p.results ∧ q = p.handOver (p.live p.results) [] := by
  obtain ⟨gone, rest, hresults, rfl, rfl⟩ := h
  obtain rfl : rest = [] := hq
  rw [List.append_nil] at hresults
  rw [hresults]
  exact ⟨rfl, rfl⟩

end Received

/-! ## One result -/

section One

variable {p q : Pool β} {r : Option (TaskResult β)}

theorem receive?_eq_none (h : p.receive? = none) : p.results = [] := by
  cases hresults : p.results with
  | nil => rfl
  | cons result rest => simp only [receive?, take?, hresults, Option.map_some, reduceCtorEq] at h

theorem live_withdrawn {result : TaskResult β} (h : p.isWithdrawn result.task.ticket = true) :
    p.live [result] = [] := by
  simp only [live, List.filter_cons, List.filter_nil, h, Bool.not_true, Bool.false_eq_true,
    if_false]

theorem live_not_withdrawn {result : TaskResult β}
    (h : p.isWithdrawn result.task.ticket = false) : p.live [result] = [result] := by
  simp only [live, List.filter_cons, List.filter_nil, h, Bool.not_false, if_true]

theorem isWithdrawn_of_live {result : TaskResult β} (h : p.live [result] = []) :
    p.isWithdrawn result.task.ticket = true := by
  cases hw : p.isWithdrawn result.task.ticket with
  | true => rfl
  | false => rw [live_not_withdrawn hw] at h; cases h

/-- The oldest result is dropped or delivered. -/
theorem receive?_eq_some (h : p.receive? = some (r, q)) :
    ∃ result, p.results = result :: q.results ∧ r.toList = p.live [result] ∧
      q = p.handOver r.toList q.results := by
  cases hresults : p.results with
  | nil => simp only [receive?, take?, hresults, Option.map_none, reduceCtorEq] at h
  | cons result rest =>
    have htake : p.take? = some (result, { p with results := rest }) := by
      simp only [take?, hresults]
    simp only [receive?, htake, Option.map_some] at h
    cases hw : p.isWithdrawn result.task.ticket with
    | true =>
      have hfinish :
          finish { p with results := rest } result = (false, { p with results := rest }) :=
        if_pos hw
      simp only [hfinish] at h
      cases h
      exact ⟨result, rfl, (live_withdrawn hw).symm, handOver_nil.symm⟩
    | false =>
      have hfinish : finish { p with results := rest } result =
          (true, release { p with results := rest } result.task) :=
        if_neg (ne_true_of_eq_false hw)
      simp only [hfinish] at h
      cases h
      exact ⟨result, rfl, (live_not_withdrawn hw).symm, (handOver_singleton result).symm⟩

theorem receive?_received (h : p.receive? = some (r, q)) : Received p r.toList q := by
  obtain ⟨result, hresults, hlive, hpool⟩ := receive?_eq_some h
  exact ⟨[result], q.results, hresults, hlive, hpool⟩

theorem receive?_length (h : p.receive? = some (r, q)) :
    p.results.length = q.results.length + 1 := by
  obtain ⟨result, hresults, -⟩ := receive?_eq_some h
  rw [hresults, List.length_cons]

end One

/-! ## The next one, and all -/

section All

variable (p : Pool β)

theorem recvWithin_received (count : Nat) :
    Received p (recvWithin count p).1.toList (recvWithin count p).2 := by
  induction count generalizing p with
  | zero => exact .refl p
  | succ count ih =>
    simp only [recvWithin]
    cases hreceive : p.receive? with
    | none => exact .refl p
    | some received =>
      obtain ⟨r, q⟩ := received
      have hone := receive?_received hreceive
      -- A result that is dropped is one more that is gone, and the call goes on.
      cases r with
      | none => exact hone.trans (ih q)
      | some result => exact hone

/-- Whoever asks for the next result and gets none has dropped all that were there. -/
theorem recvWithin_results {count : Nat} (h : p.results.length ≤ count)
    (hnone : (recvWithin count p).1 = none) : (recvWithin count p).2.results = [] := by
  induction count generalizing p with
  | zero => exact List.length_eq_zero_iff.mp (Nat.le_zero.mp h)
  | succ count ih =>
    simp only [recvWithin] at hnone ⊢
    cases hreceive : p.receive? with
    | none => exact receive?_eq_none hreceive
    | some received =>
      obtain ⟨r, q⟩ := received
      have hlength := receive?_length hreceive
      rw [hreceive] at hnone
      cases r with
      | none => exact ih q (by omega) hnone
      | some result => cases hnone

/-- Whoever asks for the next result and gets one has dropped those before it. -/
theorem recvWithin_some {count : Nat} {next : TaskResult β}
    (hsome : (recvWithin count p).1 = some next) :
    ∃ dropped, p.results = dropped ++ next :: (recvWithin count p).2.results ∧
      ∀ r ∈ dropped, p.isWithdrawn r.task.ticket = true := by
  induction count generalizing p with
  | zero => cases hsome
  | succ count ih =>
    simp only [recvWithin] at hsome ⊢
    cases hreceive : p.receive? with
    | none =>
      rw [hreceive] at hsome
      cases hsome
    | some received =>
      obtain ⟨r, q⟩ := received
      rw [hreceive] at hsome
      obtain ⟨result, hresults, hlive, hpool⟩ := receive?_eq_some hreceive
      cases r with
      | none =>
        obtain ⟨dropped, hrest, hdropped⟩ := ih q hsome
        refine ⟨result :: dropped, ?_, List.forall_mem_cons.mpr ⟨?_, ?_⟩⟩
        · rw [hresults, hrest]
          rfl
        · exact isWithdrawn_of_live hlive.symm
        · rw [hpool] at hdropped
          exact hdropped
      | some other =>
        obtain rfl : other = next := Option.some.inj hsome
        have hmem : other ∈ p.live [result] := by
          rw [← hlive]
          exact List.mem_singleton_self _
        obtain rfl := List.mem_singleton.mp (List.mem_of_mem_filter hmem)
        exact ⟨[], hresults, List.forall_mem_nil _⟩

theorem drainWithin_received (count : Nat) :
    Received p (drainWithin count p).1 (drainWithin count p).2 := by
  induction count generalizing p with
  | zero => exact .refl p
  | succ count ih =>
    simp only [drainWithin]
    cases hreceive : p.receive? with
    | none => exact .refl p
    | some received =>
      obtain ⟨r, q⟩ := received
      exact (receive?_received hreceive).trans (ih q)

theorem drainWithin_results {count : Nat} (h : p.results.length ≤ count) :
    (drainWithin count p).2.results = [] := by
  induction count generalizing p with
  | zero => exact List.length_eq_zero_iff.mp (Nat.le_zero.mp h)
  | succ count ih =>
    simp only [drainWithin]
    cases hreceive : p.receive? with
    | none => exact receive?_eq_none hreceive
    | some received =>
      obtain ⟨r, q⟩ := received
      have hlength := receive?_length hreceive
      exact ih q (by omega)

theorem recv_received : Received p p.recv.1.toList p.recv.2 := recvWithin_received p _

theorem drain_received : Received p p.drain.1 p.drain.2 := drainWithin_received p _

theorem drain_results : p.drain.2.results = [] := drainWithin_results p (Nat.le_refl _)

theorem recvTimes_received (count : Nat) :
    Received p (recvTimes count p).1 (recvTimes count p).2 := by
  induction count generalizing p with
  | zero => exact .refl p
  | succ count ih => exact (recv_received p).trans (ih p.recv.2)

/-- However often the next result is asked for, in the end it is as if all had been asked for. -/
theorem recvTimes_eq_drain {count : Nat} (h : (recvTimes count p).2.results = []) :
    recvTimes count p = p.drain := by
  obtain ⟨hresults, hpool⟩ := (recvTimes_received p count).eq_of_results_eq_nil h
  obtain ⟨hresults', hpool'⟩ := (drain_received p).eq_of_results_eq_nil (drain_results p)
  exact Prod.ext (hresults.trans hresults'.symm) (hpool.trans hpool'.symm)

/-- There are as many results as the caller has to ask for the next one at most. -/
theorem recvTimes_results {count : Nat} (h : p.results.length ≤ count) :
    (recvTimes count p).2.results = [] := by
  induction count generalizing p with
  | zero => exact List.length_eq_zero_iff.mp (Nat.le_zero.mp h)
  | succ count ih =>
    refine ih p.recv.2 ?_
    cases hrecv : p.recv.1 with
    | none =>
      rw [show p.recv.2.results = [] from recvWithin_results p (Nat.le_refl _) hrecv]
      exact Nat.zero_le _
    | some result =>
      obtain ⟨dropped, hresults, -⟩ : ∃ dropped, p.results = dropped ++ result :: p.recv.2.results ∧
        _ := recvWithin_some p hrecv
      have hlength := congrArg List.length hresults
      rw [List.length_append, List.length_cons] at hlength
      omega

end All

/-! ## The register afterwards -/

/-- Handing over takes the requests of the delivered results off the register, and no other ones. -/
theorem registered?_received {p q : Pool β} {delivered : List (TaskResult β)}
    (hkeys : (p.pending.map (·.key)).Nodup) (h : Received p delivered q) {key : ChunkKey}
    {task : Task} :
    q.registered? key = some task ↔
      p.registered? key = some task ∧ task ∉ delivered.map (·.task) := by
  obtain ⟨gone, rest, -, -, rfl⟩ := h
  rw [registered?_iff (Desk.keys_filter hkeys _), registered?_iff hkeys]
  simp only [handOver, List.mem_filter, decide_eq_true_eq]
  tauto

namespace Desk

/-- Between two calls, the request of a result is registered unless it is withdrawn. -/
theorem Sound.mem_pending_result {d : Desk β} (h : d.Sound) (hready : d.call = .ready)
    {r : TaskResult β} (hr : r ∈ d.pool.results) :
    r.task ∈ d.pool.pending ↔ d.pool.isWithdrawn r.task.ticket = false := by
  have hcall : d.call.task? ≠ some r.task := by
    rw [hready]
    exact nofun
  rw [h.mem_pending_iff_underWay hcall]
  refine ⟨And.left, fun hflag => ?_⟩
  -- A request is accepted once, and this one is still under way, so it has not been received.
  have hmem : r.task ∈ d.pool.underWay :=
    List.mem_append_right _ (List.mem_map_of_mem hr)
  have hplaces := h.count_places hcall (isWithdrawn_eq_false.mp hflag)
  have honce := h.count_accepted_le_one r.task
  have hpos := List.count_pos_iff.mpr hmem
  exact ⟨hflag, h.underWay_subset hmem, by omega⟩

/-- In every state that a pool of a generator and its caller can reach between two calls: a result
is withdrawn if its request was cancelled, and otherwise its request is registered; receiving all
results gives those that are not withdrawn in their order, and leaves none behind; asking for the
next one gives the first one that is not withdrawn and drops those before it, or there is none and
none is left behind; asking for it until no result is left gives the same results and leaves the
same pool as receiving all, and needs to be done as many times as there are results at most. Both
ways take the oldest results off, drop those that are withdrawn, and change nothing but the results
and the register; and a request is registered afterwards exactly if it was before and has not been
delivered, whichever requests of its key were dropped. -/
theorem drain_eq_recvs (g : Generator) (schedule : Schedule)
    (threads queueCapacity resultCapacity : Nat) (moves : List Move) :
    let d : Desk Chunk :=
      (start threads queueCapacity resultCapacity).play (g.maker schedule) moves
    let p := d.pool
    d.call = .ready →
      (∀ r ∈ p.results, (p.isWithdrawn r.task.ticket = true ↔ r.task ∈ d.ledger.cancelled) ∧
        (p.registered? r.task.key = some r.task ↔ p.isWithdrawn r.task.ticket = false)) ∧
      p.drain.1 = (p.results.filter fun r => !p.isWithdrawn r.task.ticket) ∧
      p.drain.2.results = [] ∧
      (∀ count, (recvTimes count p).2.results = [] → recvTimes count p = p.drain) ∧
      (∀ count, p.results.length ≤ count → (recvTimes count p).2.results = []) ∧
      (p.recv.1 = none → p.recv.2.results = []) ∧
      (∀ r, p.recv.1 = some r → ∃ dropped, p.results = dropped ++ r :: p.recv.2.results ∧
        ∀ s ∈ dropped, p.isWithdrawn s.task.ticket = true) ∧
      ∀ c ∈ [p.drain, (p.recv.1.toList, p.recv.2)],
        (∃ gone, p.results = gone ++ c.2.results ∧
          c.1 = gone.filter fun r => !p.isWithdrawn r.task.ticket) ∧
        c.2 = { p with results := c.2.results, pending := c.2.pending } ∧
        ∀ key task, c.2.registered? key = some task ↔
          p.registered? key = some task ∧ task ∉ c.1.map (·.task) := by
  intro d p hready
  have h : d.Sound := play_sound (g.maker_truthful schedule) ..
  refine ⟨?_, ?_, drain_results p, fun count => recvTimes_eq_drain p,
    fun count => recvTimes_results p, recvWithin_results p (Nat.le_refl _),
    fun r => recvWithin_some p, ?_⟩
  · intro r hr
    have haccepted : r.task ∈ d.ledger.accepted :=
      h.underWay_subset (List.mem_append_right _ (List.mem_map_of_mem hr))
    refine ⟨isWithdrawn_iff.trans (h.mem_withdrawn_iff haccepted), ?_⟩
    rw [h.orderly.registered?_iff, h.mem_pending_result hready hr]
    exact and_iff_left rfl
  · exact ((drain_received p).eq_of_results_eq_nil (drain_results p)).1
  · intro c hc
    have hreceived : Received p c.1 c.2 := by
      rcases List.mem_cons.mp hc with rfl | hc
      · exact drain_received p
      · rw [List.mem_singleton.mp hc]
        exact recv_received p
    refine ⟨?_, ?_, fun key task => registered?_received h.orderly.keys hreceived⟩
    · obtain ⟨gone, rest, hresults, hdelivered, hpool⟩ := hreceived
      rw [hpool]
      exact ⟨gone, hresults, hdelivered⟩
    · obtain ⟨gone, rest, -, -, hpool⟩ := hreceived
      rw [hpool]
      rfl

/-- A request is cancelled when its result is there, and made again, and the second result follows.
A third request waits. -/
def repeatedMoves : List Move :=
  Move.submission farKey ++ List.replicate 7 (.worker 0) ++ Move.cancellation farKey ++
    Move.submission farKey ++ List.replicate 7 (.worker 0) ++
    Move.submission ⟨Int32.minValue, 0, 0, .overworld⟩

/-- Of two results of one key, the first of which is withdrawn, the second one is received, in one
portion or in two, and the request of another key stays registered. -/
theorem repeated_drain_eq_recvs :
    let d : Desk Chunk := (start 1 1 2).play (Generator.standard.maker .forward) repeatedMoves
    d.pool.results.map (·.task) = [⟨farKey, 0⟩, ⟨farKey, 1⟩] ∧
      d.pool.drain.1.map (·.task) = [⟨farKey, 1⟩] ∧ recvTimes 2 d.pool = d.pool.drain ∧
      d.pool.drain.2.registered? ⟨Int32.minValue, 0, 0, .overworld⟩ =
        some ⟨⟨Int32.minValue, 0, 0, .overworld⟩, 2⟩ := by
  intro d
  have hresults : d.pool.results.map (·.task) = [⟨farKey, 0⟩, ⟨farKey, 1⟩] := by decide +kernel
  obtain ⟨-, hdrain, -, hsame, hcount, -, -, hregister⟩ :=
    drain_eq_recvs Generator.standard .forward 1 1 2 repeatedMoves rfl
  have hdelivered : d.pool.drain.1.map (·.task) = [⟨farKey, 1⟩] := by
    rw [hdrain]
    decide +kernel
  refine ⟨hresults, hdelivered, hsame 2 (hcount 2 (Nat.le_refl 2)), ?_⟩
  refine ((hregister _ (List.mem_cons_self ..)).2.2 _ _).mpr ⟨by decide +kernel, ?_⟩
  rw [hdelivered]
  decide

end Desk

end Landform.Pool
