import Landform.Proofs.Chunk.Watch
import Landform.Proofs.Pool.Accounts
import Landform.Proofs.Pool.Hall

/-! # What is delivered

Whoever asks a pool for a key and receives a result has what direct generation makes of the key. A
withdrawal makes a difference only to results that say so, and those are not delivered, also when
calls of several callers overlap. So when all of a list of keys is served and nothing is cancelled,
the results and the tally are those of the keys, whatever callers and workers did in which order. -/

namespace Landform

/-! ## Direct outcomes -/

section Direct

variable {β : Type}

/-- A withdrawal leaves an outcome as it is, or the outcome says that there was one. -/
def Maker.Steady (make : Maker β) : Prop :=
  ∀ key withdrawn, make key withdrawn = .error .cancelled ∨ make key withdrawn = make key false

theorem Generator.maker_steady (g : Generator) (schedule : Schedule) :
    (g.maker schedule).Steady := by
  intro key withdrawn
  cases withdrawn with
  | false => exact .inr rfl
  | true =>
    cases hrange : key.inRange with
    | true => exact .inl (g.maker_withdrawn schedule hrange)
    | false =>
      refine .inr ?_
      rw [g.maker_of_not_inRange schedule hrange, g.maker_of_not_inRange schedule hrange]

/-- The outcome is the one of its key without any withdrawal. -/
def TaskResult.Direct (make : Maker β) (result : TaskResult β) : Prop :=
  result.outcome = make result.task.key false

/-- A result that is not withdrawn is direct, and so is every result that is on its way out. -/
def Phase.Direct (make : Maker β) : Phase β → Prop
  | finished result | counted result => result.outcome = .error .cancelled ∨ result.Direct make
  | delivering result => result.Direct make
  | _ => True

theorem Phase.task?_of_uncounted {a : Phase β} {task : Task} (h : a.uncounted? = some task) :
    a.task? = some task := by
  cases a with
  | counted result => cases h
  | delivering result => cases h
  | _ => exact h

end Direct

/-! ## Direct outcomes of a generator -/

namespace Generator

variable (g : Generator) (schedule : Schedule) {r : TaskResult Chunk}

/-- A direct outcome is a chunk if the key is in range, and otherwise says that it is not. The
schedule makes no difference. -/
theorem direct_cases (h : r.Direct (g.maker schedule)) :
    (r.task.key.inRange = true ∧ r.outcome = .ok (g.voxelwise r.task.key)) ∨
    (r.task.key.inRange = false ∧
      r.outcome = .error (.outOfRange r.task.key.x r.task.key.z)) := by
  cases hrange : r.task.key.inRange with
  | true => exact .inl ⟨rfl, h.trans (g.maker_of_inRange schedule hrange)⟩
  | false => exact .inr ⟨rfl, h.trans (g.maker_of_not_inRange schedule hrange _)⟩

theorem foldl_count {rs : List (TaskResult Chunk)}
    (h : ∀ r ∈ rs, r.Direct (g.maker schedule)) (t : Tally) :
    rs.foldl (fun t r => t.count r.outcome) t =
      ⟨t.generated + (rs.map (·.task.key)).countP (·.inRange),
        t.failed + (rs.map (·.task.key)).countP (!·.inRange), t.cancelled⟩ := by
  induction rs generalizing t with
  | nil => rfl
  | cons r rs ih =>
    obtain ⟨hr, hrs⟩ := List.forall_mem_cons.mp h
    rw [List.foldl_cons, ih hrs, List.map_cons, List.countP_cons, List.countP_cons]
    rcases g.direct_cases schedule hr with ⟨hrange, hout⟩ | ⟨hrange, hout⟩
    · simp only [hrange, hout, Tally.count, Nat.add_assoc, Nat.add_comm 1, if_true,
        Bool.not_true, Bool.false_eq_true, if_false, Nat.add_zero]
    · simp only [hrange, hout, Tally.count, Nat.add_assoc, Nat.add_comm 1, if_true,
        Bool.not_false, Bool.false_eq_true, if_false, Nat.add_zero]

end Generator

namespace Pool

variable {β : Type}

/-- The result that the caller has taken off and not received yet. -/
def Call.inHand : Call β → List (TaskResult β)
  | taken _ result | claimed _ result => [result]
  | _ => []

theorem direct_of_isDeliverable {make : Maker β} {p : Pool β} {result : TaskResult β}
    (h : p.isDeliverable result = true) (hr : (Phase.counted result).Direct make) :
    result.Direct make := by
  rcases hr with hcancelled | hdirect
  · simp only [isDeliverable, hcancelled, Bool.false_eq_true] at h
  · exact hdirect

/-- A turn of a worker keeps what it holds direct. -/
theorem Turn.direct {make : Maker β} (steady : make.Steady) {p q : Pool β} {a b : Phase β}
    (h : Turn make p a b q) (ha : a.Direct make) : b.Direct make := by
  cases h with
  | skip h => exact .inl rfl
  | make => exact steady ..
  | count => exact ha
  | keep h => exact direct_of_isDeliverable h ha
  | _ => trivial

/-- A turn of a worker adds no result, or the one that the worker was delivering. -/
theorem Turn.results {make : Maker β} {p q : Pool β} {a b : Phase β} (h : Turn make p a b q) :
    q.results = p.results ∨
      ∃ result, a = .delivering result ∧ q.results = p.results ++ [result] := by
  cases h with
  | deliver h => exact .inr ⟨_, rfl, rfl⟩
  | _ => exact .inl rfl

namespace Desk

/-- The results are direct wherever they are. -/
structure Direct (make : Maker β) (d : Desk β) : Prop where
  workers : ∀ a ∈ d.pool.workers, a.Direct make
  results : ∀ r ∈ d.pool.results, r.Direct make
  inHand : ∀ r ∈ d.call.inHand, r.Direct make
  delivered : ∀ r ∈ d.ledger.delivered, r.Direct make

theorem start_direct (make : Maker β) (threads queueCapacity resultCapacity : Nat) :
    (start threads queueCapacity resultCapacity : Desk β).Direct make where
  workers a ha := by
    rw [List.eq_of_mem_replicate ha]
    trivial
  results := List.forall_mem_nil _
  inHand := List.forall_mem_nil _
  delivered := List.forall_mem_nil _

theorem Step.direct {make : Maker β} (steady : make.Steady) {d d' : Desk β} (h : Step make d d')
    (hd : d.Direct make) : d'.Direct make := by
  obtain ⟨hworkers, hresults, hhand, hdelivered⟩ := hd
  cases h with
  | @worker p q call l before after a b hrow hturn =>
    simp only [hrow] at hworkers
    have ha := hworkers a (List.mem_append_right _ (List.mem_cons_self ..))
    refine ⟨forall_mem_of_turn hworkers (hturn.direct steady ha), ?_, hhand, hdelivered⟩
    rcases hturn.results with hsame | ⟨result, rfl, hmore⟩
    · simp only [hsame]
      exact hresults
    · simp only [hmore]
      exact List.forall_mem_append.mpr ⟨hresults, List.forall_mem_singleton.mpr ha⟩
  | begin request => cases request <;> exact ⟨hworkers, hresults, List.forall_mem_nil _, hdelivered⟩
  | take h =>
    simp only [h] at hresults
    obtain ⟨hfirst, hrest⟩ := List.forall_mem_cons.mp hresults
    exact ⟨hworkers, hrest, List.forall_mem_singleton.mpr hfirst, hdelivered⟩
  | drop h => exact ⟨hworkers, hresults, List.forall_mem_nil _, hdelivered⟩
  | @release p l all result =>
    have hdelivered' : ∀ r ∈ (l.deliver result).delivered, r.Direct make :=
      List.forall_mem_append.mpr ⟨hdelivered, hhand⟩
    refine ⟨hworkers, hresults, ?_, hdelivered'⟩
    cases all <;> exact List.forall_mem_nil _
  | _ => exact ⟨hworkers, hresults, hhand, hdelivered⟩

end Desk

/-! ## The tally of outcomes -/

/-- The tally counts one result for every accepted task that a worker is done with. Such a result is
direct, or its task is withdrawn. -/
def Tallied (make : Maker β) (p : Pool β) (l : Ledger β) : Prop :=
  ∃ counted : List (TaskResult β),
    l.accepted.Perm
      (counted.map (·.task) ++ (p.queue ++ p.workers.filterMap Phase.uncounted?)) ∧
    p.tally = counted.foldl (fun t r => t.count r.outcome) ⟨0, 0, 0⟩ ∧
    ∀ r ∈ counted, r.task.ticket ∈ p.withdrawn ∨ r.Direct make

theorem create_tallied (make : Maker β) (threads queueCapacity resultCapacity : Nat) :
    (create threads queueCapacity resultCapacity : Pool β).Tallied make .blank := by
  have hidle : (List.replicate (max threads 1) (Phase.idle : Phase β)).filterMap
      Phase.uncounted? = [] := List.filterMap_replicate_of_none rfl
  refine ⟨[], ?_, rfl, List.forall_mem_nil _⟩
  simp only [create, hidle]
  exact .nil

theorem Desk.Step.tallied {make : Maker β} {d d' : Desk β} (h : Step make d d')
    (htruthful : ∀ a ∈ d.pool.workers, a.Truthful d.pool.withdrawn)
    (hdirect : ∀ a ∈ d.pool.workers, a.Direct make) (ht : d.pool.Tallied make d.ledger) :
    d'.pool.Tallied make d'.ledger := by
  obtain ⟨counted, hperm, htally, hcounted⟩ := ht
  cases h with
  | @worker p q call l before after a b hworkers hturn =>
    have hw := hturn.frame.2.1
    rw [← hw] at hcounted
    rcases hturn.uncounted hworkers with ⟨hsame, hmoved⟩ | ⟨result, rfl, hmore, hmoved⟩
    · rw [← hsame] at htally
      exact ⟨counted, hperm.trans (hmoved.append_left _), htally, hcounted⟩
    · refine ⟨counted ++ [result], ?_, ?_, ?_⟩
      · simp only [List.map_append, List.append_assoc]
        exact hperm.trans (hmoved.append_left _)
      · rw [hmore, htally, List.foldl_append]
        rfl
      · have hmem : Phase.finished result ∈ p.workers := by
          rw [hworkers]
          exact List.mem_append_right _ (List.mem_cons_self ..)
        refine List.forall_mem_append.mpr ⟨hcounted, List.forall_mem_singleton.mpr ?_⟩
        rcases hdirect _ hmem with hcancelled | hr
        · -- Who says that the task is withdrawn is right.
          rw [hw]
          exact .inl (htruthful _ hmem hcancelled)
        · exact .inr hr
  | enqueue h =>
    refine ⟨counted, (hperm.append_right _).trans ?_, htally, hcounted⟩
    rw [List.perm_iff_count]
    intro t
    simp only [List.count_append]
    omega
  | withdraw =>
    refine ⟨counted, hperm, htally, fun r hr => ?_⟩
    exact (hcounted r hr).imp_left (List.mem_cons_of_mem _)
  | _ => exact ⟨counted, hperm, htally, hcounted⟩

namespace Hall

/-! ## Outcomes in a hall -/

/-- The results are direct wherever they are, and so are those that are counted. -/
structure Direct (make : Maker β) (h : Hall β) : Prop where
  workers : ∀ a ∈ h.pool.workers, a.Direct make
  results : ∀ r ∈ h.pool.results, r.Direct make
  inHand : ∀ call ∈ h.calls, ∀ r ∈ call.inHand, r.Direct make
  delivered : ∀ r ∈ h.ledger.delivered, r.Direct make
  tallied : h.pool.Tallied make h.ledger

theorem start_direct (make : Maker β) (callers threads queueCapacity resultCapacity : Nat) :
    (start callers threads queueCapacity resultCapacity : Hall β).Direct make where
  workers := (Desk.start_direct make threads queueCapacity resultCapacity).workers
  results := List.forall_mem_nil _
  inHand call hcall := by
    rw [List.eq_of_mem_replicate hcall]
    exact List.forall_mem_nil _
  delivered := List.forall_mem_nil _
  tallied := create_tallied ..

theorem Step.direct {make : Maker β} (steady : make.Steady) {h h' : Hall β}
    (hstep : Step make h h') (hs : h.Sound) (hd : h.Direct make) : h'.Direct make := by
  cases hstep with
  | @desk p call l d before after hdesk =>
    have hcall : call ∈ before ++ call :: after := List.mem_append_right _ (List.mem_cons_self ..)
    have hdirect : Desk.Direct make ⟨p, call, l⟩ :=
      ⟨hd.workers, hd.results, hd.inHand call hcall, hd.delivered⟩
    have hdirect' : d.Direct make := hdesk.direct steady hdirect
    -- The other callers have the same results in hand as before.
    have hhand := forall_mem_of_turn hd.inHand hdirect'.inHand
    have htallied := hdesk.tallied hs.truthful hd.workers hd.tallied
    exact ⟨hdirect'.workers, hdirect'.results, hhand, hdirect'.delivered, htallied⟩

theorem play_direct {make : Maker β} (honest : make.Truthful) (steady : make.Steady)
    (callers threads queueCapacity resultCapacity : Nat) (moves : List (Nat × Move)) :
    ((start callers threads queueCapacity resultCapacity).play make moves).Direct make := by
  refine (play_invariant (motive := fun h => h.Sound ∧ h.Direct make) ?_ ?_ moves).2
  · rintro h h' hstep ⟨hs, hd⟩
    exact ⟨hstep.sound honest hs, hstep.direct steady hs hd⟩
  · exact ⟨start_sound .., start_direct ..⟩

/-! ## Withdrawals during a generation

A worker generates a chunk while others take their steps, and looks at the flag of its task in
between. The one step that this is among the others takes place at the last look. -/

theorem play_withdrawn_subset (make : Maker β) (h : Hall β) (moves : List (Nat × Move)) :
    h.pool.withdrawn ⊆ (h.play make moves).pool.withdrawn := by
  refine play_invariant (motive := fun h' => h.pool.withdrawn ⊆ h'.pool.withdrawn) ?_
    (List.Subset.refl _) moves
  rintro h' h'' hstep hsubset
  exact List.Subset.trans hsubset hstep.withdrawn_subset

/-- Whoever looks at the flag of a task in the course of a run finds that it stays raised. -/
theorem staysRaised_play (make : Maker β) (h : Hall β) (moves : List (Nat × Move))
    (ticket : Ticket) {count : Look → Nat}
    (hcount : ∀ before after : Look, before.time < after.time → count before ≤ count after) :
    StaysRaised fun look => (h.play make (moves.take (count look))).pool.isWithdrawn ticket := by
  intro before after htime hraised
  obtain ⟨rest, hrest⟩ := List.take_prefix_take_left (hcount before after htime) (l := moves)
  rw [isWithdrawn_iff] at hraised ⊢
  rw [← hrest, play_append]
  exact play_withdrawn_subset make _ rest hraised

/-- A generation among the steps of a run makes what it makes at once at its last look. -/
theorem runWatched_eq_maker (g : Generator) (schedule : Schedule) (plan : Plan) (key : ChunkKey)
    (h : Hall Chunk) (moves : List (Nat × Move)) (ticket : Ticket) {count : Look → Nat}
    (hcount : ∀ before after : Look, before.time < after.time → count before ≤ count after) :
    g.runWatched plan key (fun look =>
        (h.play (g.maker schedule) (moves.take (count look))).pool.isWithdrawn ticket) =
      g.maker schedule key ((h.play (g.maker schedule)
        (moves.take (count (.after .marks)))).pool.isWithdrawn ticket) := by
  rw [g.runWatched_eq_run (staysRaised_play _ h moves ticket hcount) plan key]
  exact g.run_eq_maker schedule plan key _

end Hall

/-! ## Lists of keys -/

/-- The keys were accepted in some order, nothing was cancelled, and everything was received. -/
structure Ledger.Served (keys : List ChunkKey) (l : Ledger β) : Prop where
  accepted : (l.accepted.map (·.key)).Perm keys
  cancelled : l.cancelled = []
  received : l.accepted ⊆ l.received

namespace Hall

section Served

variable {h : Hall β} {keys : List ChunkKey}

theorem received_perm_of_served (hserved : h.ledger.Served keys) (hs : h.Sound) :
    (h.ledger.received.map (·.key)).Perm keys := by
  have hperm : h.ledger.received.Perm h.ledger.accepted :=
    (List.perm_ext_iff_of_nodup hs.received_nodup hs.accepted_nodup).mpr
      fun _ => ⟨fun ht => hs.received_subset ht, fun ht => hserved.received ht⟩
  exact (hperm.map _).trans hserved.accepted

theorem withdrawn_of_served (hserved : h.ledger.Served keys) (hs : h.Sound) :
    h.pool.withdrawn = [] := by
  have hw := hs.withdrawn
  rw [hserved.cancelled] at hw
  exact List.reverse_eq_nil_iff.mp hw

/-- When everything has been received, every accepted task is counted. -/
theorem counted_perm_of_served {counted : List (TaskResult β)} (hserved : h.ledger.Served keys)
    (hs : h.Sound)
    (hperm : h.ledger.accepted.Perm
      (counted.map (·.task) ++ (h.pool.queue ++ h.pool.workers.filterMap Phase.uncounted?))) :
    (counted.map (·.task.key)).Perm keys := by
  have hquiet := hs.underWay_eq_nil hserved.received
  simp only [Pool.underWay, List.append_eq_nil_iff] at hquiet
  have hworkers : h.pool.workers.filterMap Phase.uncounted? = [] := by
    refine List.filterMap_eq_nil_iff.mpr fun a ha => Option.eq_none_iff_forall_ne_some.mpr ?_
    intro task htask
    have hnone := List.filterMap_eq_nil_iff.mp hquiet.1.2 a ha
    rw [Phase.task?_of_uncounted htask] at hnone
    cases hnone
  rw [hquiet.1.1, hworkers, List.append_nil, List.append_nil] at hperm
  have hkeys := (hperm.map (·.key)).symm.trans hserved.accepted
  rwa [List.map_map] at hkeys

end Served

section Generator

variable {g : Generator} {schedule : Schedule} {h : Hall Chunk} {keys : List ChunkKey}

/-- The results of a list of keys are those of direct generation. -/
theorem delivered_perm_of_served (hserved : h.ledger.Served keys) (hs : h.Sound)
    (hd : h.Direct (g.maker schedule)) :
    (h.ledger.delivered.map fun r => (r.task.key, r.outcome)).Perm
      (keys.map fun key => (key, g.generate schedule key)) := by
  have hperm := (received_perm_of_served hserved hs).map fun key => (key, g.generate schedule key)
  refine .trans (.of_eq ?_) hperm
  rw [Ledger.received, List.map_map, List.map_map]
  refine List.map_congr_left fun r hr => ?_
  exact Prod.ext rfl (hd.delivered r hr)

/-- The tally of a list of keys tells how many of them are in range. -/
theorem tally_of_served (hserved : h.ledger.Served keys) (hs : h.Sound)
    (hd : h.Direct (g.maker schedule)) :
    h.pool.tally = ⟨keys.countP (·.inRange), keys.countP (!·.inRange), 0⟩ := by
  obtain ⟨counted, hperm, htally, hcounted⟩ := hd.tallied
  have hkeys := counted_perm_of_served hserved hs hperm
  have hall : ∀ r ∈ counted, r.Direct (g.maker schedule) := by
    intro r hr
    rcases hcounted r hr with hw | hdirect
    · rw [withdrawn_of_served hserved hs] at hw
      cases hw
    · exact hdirect
  rw [htally, g.foldl_count schedule hall, hkeys.countP_eq, hkeys.countP_eq, Nat.zero_add,
    Nat.zero_add]

end Generator

/-- In every run of a pool of a generator with any number of callers, whose calls can overlap, and
whatever is cancelled, every result that is received has the outcome that direct generation has for
its key under any schedule: a chunk if the key is in range, and otherwise the error that it is not;
it never says that the request was withdrawn. And when a list of keys was accepted, nothing was
cancelled and everything has been received, the results are those of the keys, the tally counts the
keys in range as generated and the others as failed, and any other run that serves the same keys
ends with the same results and the same tally, whatever its callers, its workers, its room and the
order of its moves. -/
theorem delivered_eq_generate (g : Generator) (schedule : Schedule)
    (callers threads queueCapacity resultCapacity : Nat) (moves : List (Nat × Move)) :
    let h : Hall Chunk :=
      (start callers threads queueCapacity resultCapacity).play (g.maker schedule) moves
    (∀ r ∈ h.ledger.delivered,
      (∀ other, r.outcome = g.generate other r.task.key) ∧
      (r.task.key.inRange = true → ∃ c, r.outcome = .ok c) ∧
      (r.task.key.inRange = false →
        r.outcome = .error (.outOfRange r.task.key.x r.task.key.z)) ∧
      r.outcome ≠ .error .cancelled) ∧
    ∀ keys, h.ledger.Served keys →
      (h.ledger.delivered.map fun r => (r.task.key, r.outcome)).Perm
        (keys.map fun key => (key, g.generate schedule key)) ∧
      h.pool.tally = ⟨keys.countP (·.inRange), keys.countP (!·.inRange), 0⟩ ∧
      ∀ callers' threads' queueCapacity' resultCapacity' moves',
        let h' : Hall Chunk :=
          (start callers' threads' queueCapacity' resultCapacity').play (g.maker schedule) moves'
        h'.ledger.Served keys →
          (h'.ledger.delivered.map fun r => (r.task.key, r.outcome)).Perm
            (h.ledger.delivered.map fun r => (r.task.key, r.outcome)) ∧
          h'.pool.tally = h.pool.tally := by
  have honest := g.maker_truthful schedule
  have steady := g.maker_steady schedule
  intro h
  have hs : h.Sound := play_sound honest ..
  have hd : h.Direct (g.maker schedule) := play_direct honest steady ..
  refine ⟨?_, ?_⟩
  · intro r hr
    have hr := hd.delivered r hr
    refine ⟨fun other => ?_, ?_, ?_, ?_⟩
    · rcases g.direct_cases schedule hr with ⟨hrange, hout⟩ | ⟨hrange, hout⟩
      · exact hout.trans (g.maker_of_inRange other hrange).symm
      · exact hout.trans (g.maker_of_not_inRange other hrange false).symm
    · exact fun hrange => ⟨_, hr.trans (g.maker_of_inRange schedule hrange)⟩
    · exact fun hrange => hr.trans (g.maker_of_not_inRange schedule hrange false)
    · rw [hr]
      exact honest _
  · intro keys hserved
    have hresults := delivered_perm_of_served hserved hs hd
    have htally := tally_of_served hserved hs hd
    refine ⟨hresults, htally, ?_⟩
    -- The other run is described by the same keys.
    intro callers' threads' queueCapacity' resultCapacity' moves' h' hserved'
    have hs' : h'.Sound := play_sound honest ..
    have hd' : h'.Direct (g.maker schedule) := play_direct honest steady ..
    refine ⟨(delivered_perm_of_served hserved' hs' hd').trans hresults.symm, ?_⟩
    rw [htally]
    exact tally_of_served hserved' hs' hd'

/-! ## Two runs for the same keys

In one run two callers submit at the same time, two workers make the results, and the callers
receive them at the same time. In the other one a single caller has the keys made one after the
other. -/

/-- A key in range. -/
def nearKey : ChunkKey := ⟨0, 0, 0, .overworld⟩

/-- Both callers proceed in turn. -/
def inTurn : List (Nat × Move) := [(0, .proceed), (1, .proceed)]

def pairMaking : List (Nat × Move) :=
  (0, .call (.submit nearKey)) :: (1, .call (.submit farKey)) :: (inTurn ++ inTurn ++ inTurn) ++
    List.replicate 3 (0, .worker 0) ++ List.replicate 3 (0, .worker 1)

def pairHanding : List (Nat × Move) :=
  List.replicate 4 (0, .worker 1) ++ List.replicate 4 (0, .worker 0) ++
    (0, .call .recv) :: (1, .call .recv) :: (inTurn ++ inTurn ++ inTurn)

def singleMaking (key : ChunkKey) : List (Nat × Move) :=
  (Move.submission key ++ List.replicate 3 (Move.worker 0)).map (0, ·)

def singleHanding : List (Nat × Move) :=
  (List.replicate 4 (Move.worker 0) ++ Move.call .recv :: List.replicate 3 .proceed).map (0, ·)

/-- The moves of the single caller. -/
def singleMoves : List (Nat × Move) :=
  singleMaking nearKey ++ singleHanding ++ singleMaking farKey ++ singleHanding

section Runs

variable {make : Maker β} {value : β} {x z : Int32} (hnear : make nearKey false = .ok value)
  (hfar : make farKey false = .error (.outOfRange x z))

include hnear hfar

theorem pair_ledger :
    ((start 2 2 2 2).play make (pairMaking ++ pairHanding)).ledger =
      ⟨[⟨nearKey, 0⟩, ⟨farKey, 1⟩], [],
        [⟨⟨farKey, 1⟩, .error (.outOfRange x z)⟩, ⟨⟨nearKey, 0⟩, .ok value⟩]⟩ := by
  have hmaking : (start 2 2 2 2).play make pairMaking =
      ⟨{ (create 2 2 2 : Pool β) with
          pending := [⟨nearKey, 0⟩, ⟨farKey, 1⟩]
          nextTicket := 2
          inFlight := 2
          workers := [.finished ⟨⟨nearKey, 0⟩, make nearKey false⟩,
            .finished ⟨⟨farKey, 1⟩, make farKey false⟩] },
        [.ready, .ready], ⟨[⟨nearKey, 0⟩, ⟨farKey, 1⟩], [], []⟩⟩ := by cbv
  rw [play_append, hmaking, hnear, hfar]
  cbv

theorem single_ledger :
    ((start 1 1 1 1).play make singleMoves).ledger =
      ⟨[⟨nearKey, 0⟩, ⟨farKey, 1⟩], [],
        [⟨⟨nearKey, 0⟩, .ok value⟩, ⟨⟨farKey, 1⟩, .error (.outOfRange x z)⟩]⟩ := by
  have hfirst : (start 1 1 1 1).play make (singleMaking nearKey) =
      ⟨{ (create 1 1 1 : Pool β) with
          pending := [⟨nearKey, 0⟩]
          nextTicket := 1
          inFlight := 1
          workers := [.finished ⟨⟨nearKey, 0⟩, make nearKey false⟩] },
        [.ready], ⟨[⟨nearKey, 0⟩], [], []⟩⟩ := by cbv
  have hsecond : (start 1 1 1 1).play make
        (singleMaking nearKey ++ singleHanding ++ singleMaking farKey) =
      ⟨{ (create 1 1 1 : Pool β) with
          pending := [⟨farKey, 1⟩]
          nextTicket := 2
          inFlight := 1
          tally := ⟨1, 0, 0⟩
          workers := [.finished ⟨⟨farKey, 1⟩, make farKey false⟩] },
        [.ready], ⟨[⟨nearKey, 0⟩, ⟨farKey, 1⟩], [], [⟨⟨nearKey, 0⟩, .ok value⟩]⟩⟩ := by
    rw [play_append, play_append, hfirst, hnear]
    cbv
  rw [singleMoves, play_append, hsecond, hfar]
  cbv

theorem pair_served :
    ((start 2 2 2 2).play make (pairMaking ++ pairHanding)).ledger.Served [nearKey, farKey] := by
  rw [pair_ledger hnear hfar]
  exact ⟨.refl _, rfl, (List.Perm.swap ..).subset⟩

theorem single_served :
    ((start 1 1 1 1).play make singleMoves).ledger.Served [nearKey, farKey] := by
  rw [single_ledger hnear hfar]
  exact ⟨.refl _, rfl, List.Subset.refl _⟩

end Runs

theorem pair_delivered :
    let pair : Hall Chunk :=
      (start 2 2 2 2).play (Generator.standard.maker .forward) (pairMaking ++ pairHanding)
    let single : Hall Chunk := (start 1 1 1 1).play (Generator.standard.maker .forward) singleMoves
    pair.ledger.Served [nearKey, farKey] ∧ single.ledger.Served [nearKey, farKey] ∧
      pair.pool.tally = ⟨1, 1, 0⟩ ∧ single.pool.tally = pair.pool.tally ∧
      (single.ledger.delivered.map fun r => (r.task.key, r.outcome)).Perm
        (pair.ledger.delivered.map fun r => (r.task.key, r.outcome)) ∧
      (pair.ledger.delivered.map fun r => (r.task.key, r.outcome)).Perm
        [(nearKey, Generator.standard.generate .forward nearKey),
          (farKey, Generator.standard.generate .forward farKey)] := by
  dsimp only
  have hnear : nearKey.inRange = true := by decide
  have hfar : farKey.inRange = false := by decide
  have hnear := Generator.standard.maker_of_inRange .forward hnear
  have hfar := Generator.standard.maker_of_not_inRange .forward hfar false
  have hpair := pair_served hnear hfar
  have hsingle := single_served hnear hfar
  obtain ⟨hresults, htally, hother⟩ :=
    (delivered_eq_generate Generator.standard .forward 2 2 2 2
      (pairMaking ++ pairHanding)).2 _ hpair
  obtain ⟨hsame, hsame'⟩ := hother 1 1 1 1 singleMoves hsingle
  have hcounts : (⟨[nearKey, farKey].countP (·.inRange), [nearKey, farKey].countP (!·.inRange), 0⟩ :
      Tally) = ⟨1, 1, 0⟩ := by decide
  rw [hcounts] at htally
  exact ⟨hpair, hsingle, htally, hsame', hsame, hresults⟩

end Hall

end Pool

end Landform
