import Landform.Proofs.Chunk.Voxelwise
import Landform.Proofs.Pool.Step
import Mathlib.Data.List.Nodup

/-! # Requests during a run

Requests are told apart by their tickets, and the registered ones by their keys as well. Which of
them are withdrawn is what the caller was told, and an outcome that says so is right. All this holds
wherever the requests are. -/

namespace Landform

/-! ## Outcomes -/

/-- Where a result says that its task was withdrawn, the ticket of the task is among these. -/
def Phase.Truthful {β : Type} (withdrawn : List Ticket) : Phase β → Prop
  | finished result | counted result =>
    result.outcome = .error .cancelled → result.task.ticket ∈ withdrawn
  | _ => True

theorem Phase.Truthful.mono {β : Type} {a : Phase β} {before after : List Ticket}
    (h : before ⊆ after)
    (ha : a.Truthful before) : a.Truthful after := by
  cases a with
  | finished result => exact fun hcancelled => h (ha hcancelled)
  | counted result => exact fun hcancelled => h (ha hcancelled)
  | _ => trivial

/-- What is made for a task that is not withdrawn does not say that it was. -/
def Maker.Truthful {β : Type} (make : Maker β) : Prop :=
  ∀ key, make key false ≠ .error .cancelled

/-- What a generator makes in a pool. -/
def Generator.maker (g : Generator) (schedule : Schedule) : Maker Chunk :=
  fun key withdrawn => g.generate schedule key withdrawn

section Maker

variable (g : Generator) (schedule : Schedule) {key : ChunkKey}

theorem Generator.maker_of_inRange (h : key.inRange = true) :
    g.maker schedule key false = .ok (g.voxelwise key) :=
  g.run_eq_voxelwise key schedule.plan h

theorem Generator.maker_of_not_inRange (h : key.inRange = false) (withdrawn : Bool) :
    g.maker schedule key withdrawn = .error (.outOfRange key.x key.z) :=
  g.run_of_not_inRange schedule.plan h withdrawn

theorem Generator.maker_withdrawn (h : key.inRange = true) :
    g.maker schedule key true = .error .cancelled :=
  g.run_cancelled schedule.plan h

/-- The order of the units makes no difference to what a worker makes. -/
theorem Generator.run_eq_maker (plan : Plan) (key : ChunkKey) (withdrawn : Bool) :
    g.run plan key withdrawn = g.maker schedule key withdrawn := by
  cases h : key.inRange with
  | false => rw [g.run_of_not_inRange plan h, g.maker_of_not_inRange schedule h]
  | true =>
    cases withdrawn with
    | false => rw [g.run_eq_voxelwise key plan h, g.maker_of_inRange schedule h]
    | true => rw [g.run_cancelled plan h, g.maker_withdrawn schedule h]

theorem Generator.maker_truthful : (g.maker schedule).Truthful := by
  intro key hcancelled
  cases hrange : key.inRange with
  | true =>
    rw [g.maker_of_inRange schedule hrange] at hcancelled
    cases hcancelled
  | false =>
    rw [g.maker_of_not_inRange schedule hrange] at hcancelled
    cases hcancelled

end Maker

namespace Pool

variable {β : Type}

theorem isWithdrawn_iff {p : Pool β} {ticket : Ticket} :
    p.isWithdrawn ticket = true ↔ ticket ∈ p.withdrawn :=
  List.contains_iff_mem

theorem isWithdrawn_eq_false {p : Pool β} {ticket : Ticket} :
    p.isWithdrawn ticket = false ↔ ticket ∉ p.withdrawn := by
  rw [← isWithdrawn_iff, Bool.not_eq_true]

/-- The request of a submission that is registered and not accepted. -/
def Call.offered : Call β → List Task
  | registered task | entered task | refused task | left task => [task]
  | _ => []

/-- The request whose result the caller is about to receive. -/
def Call.due : Call β → List Task
  | claimed _ result => [result.task]
  | _ => []

/-- What a turn of a worker leaves alone. -/
theorem Turn.frame {make : Maker β} {p q : Pool β} {a b : Phase β} (h : Turn make p a b q) :
    q.pending = p.pending ∧ q.withdrawn = p.withdrawn ∧ q.nextTicket = p.nextTicket := by
  cases h <;> exact ⟨rfl, rfl, rfl⟩

/-- A result that nobody gets is the result of a request that is withdrawn. -/
theorem mem_withdrawn_of_isDeliverable {p : Pool β} {result : TaskResult β}
    (h : p.isDeliverable result = false)
    (htrue : (Phase.counted result).Truthful p.withdrawn) :
    result.task.ticket ∈ p.withdrawn := by
  unfold isDeliverable at h
  split at h
  · rename_i hcancelled
    exact htrue hcancelled
  · exact isWithdrawn_iff.mp (by simpa only [Bool.not_eq_eq_eq_not, Bool.not_false] using h)

/-! ## Tickets -/

/-- No two of the requests have the same ticket, and no ticket is the next one or after it. -/
structure Numbered (tasks : List Task) (next : Ticket) : Prop where
  fresh : ∀ task ∈ tasks, task.ticket < next
  tickets : (tasks.map (·.ticket)).Nodup

section Numbered

variable {tasks others : List Task} {next : Ticket}

theorem Numbered.perm (h : Numbered tasks next) (hperm : tasks.Perm others) :
    Numbered others next where
  fresh task htask := h.fresh task (hperm.mem_iff.mpr htask)
  tickets := (hperm.map _).nodup_iff.mp h.tickets

theorem Numbered.of_append_left (h : Numbered (tasks ++ others) next) : Numbered tasks next where
  fresh task htask := h.fresh task (List.mem_append_left _ htask)
  tickets := by
    have htickets := h.tickets
    rw [List.map_append] at htickets
    exact htickets.of_append_left

/-- The request with the next ticket. -/
theorem Numbered.cons (h : Numbered tasks next) (key : ChunkKey) :
    Numbered (⟨key, next⟩ :: tasks) (next + 1) where
  fresh := List.forall_mem_cons.mpr
    ⟨Nat.lt_succ_self _, fun task htask => Nat.lt_succ_of_lt (h.fresh task htask)⟩
  tickets := by
    refine List.nodup_cons.mpr ⟨fun hmem => ?_, h.tickets⟩
    -- The new ticket is greater than all that were given out before.
    obtain ⟨task, htask, hticket⟩ := List.mem_map.mp hmem
    exact absurd hticket (Nat.ne_of_lt (h.fresh task htask))

theorem Numbered.nodup (h : Numbered tasks next) : tasks.Nodup := .of_map _ h.tickets

end Numbered

namespace Desk

/-! ## Tickets, keys and outcomes -/

/-- No ticket is given out twice and no key is registered twice, the withdrawn tickets are those of
the cancelled requests, and who says that a request is withdrawn is right. -/
structure Orderly (d : Desk β) : Prop where
  fresh : ∀ task ∈ d.ledger.accepted ++ d.call.offered, task.ticket < d.pool.nextTicket
  tickets : ((d.ledger.accepted ++ d.call.offered).map (·.ticket)).Nodup
  keys : (d.pool.pending.map (·.key)).Nodup
  offered : ∀ task ∈ d.call.offered, task ∈ d.pool.pending
  withdrawn : d.pool.withdrawn.reverse = d.ledger.cancelled.map (·.ticket)
  truthful : ∀ a ∈ d.pool.workers, a.Truthful d.pool.withdrawn
  due : ∀ task ∈ d.call.due, task.ticket ∉ d.pool.withdrawn

theorem Orderly.mem_withdrawn {d : Desk β} (h : d.Orderly) {ticket : Ticket} :
    ticket ∈ d.pool.withdrawn ↔ ∃ task ∈ d.ledger.cancelled, task.ticket = ticket := by
  rw [← List.mem_reverse, h.withdrawn, List.mem_map]

theorem start_orderly (threads queueCapacity resultCapacity : Nat) :
    (start threads queueCapacity resultCapacity : Desk β).Orderly where
  fresh := nofun
  tickets := .nil
  keys := .nil
  offered := nofun
  withdrawn := rfl
  truthful a ha := by
    rw [List.eq_of_mem_replicate ha]
    trivial
  due := nofun

/-- After a turn the outcomes still tell the truth. -/
theorem truthful_turn {make : Maker β} (honest : make.Truthful) {p q : Pool β}
    {before after : List (Phase β)} {a b : Phase β} (hworkers : p.workers = before ++ a :: after)
    (h : Turn make p a b q) (hp : ∀ c ∈ p.workers, c.Truthful p.withdrawn) :
    ∀ c ∈ before ++ b :: after, c.Truthful q.withdrawn := by
  rw [hworkers] at hp
  rw [h.frame.2.1]
  have hb : b.Truthful p.withdrawn := by
    have ha := hp a (List.mem_append_right _ (List.mem_cons_self ..))
    cases h with
    | skip h => exact fun _ => isWithdrawn_iff.mp h
    | @make task =>
      -- The outcome was made with the flag of this very moment.
      intro hcancelled
      cases hw : p.isWithdrawn task.ticket with
      | true => exact isWithdrawn_iff.mp hw
      | false =>
        rw [hw] at hcancelled
        exact absurd hcancelled (honest task.key)
    | count => exact ha
    | _ => trivial
  exact forall_mem_of_turn hp hb

theorem key_notMem_of_isPending {p : Pool β} {key : ChunkKey} (h : p.isPending key = false) :
    key ∉ p.pending.map (·.key) := by
  intro hmem
  obtain ⟨task, htask, rfl⟩ := List.mem_map.mp hmem
  have hnone : p.pending.find? (·.key == task.key) = none := by
    simpa only [isPending, registered?, Option.isSome_eq_false_iff, Option.isNone_iff_eq_none]
      using h
  exact List.find?_eq_none.mp hnone task htask (beq_self_eq_true _)

theorem keys_filter {pending : List Task} (h : (pending.map (·.key)).Nodup)
    (keep : Task → Bool) : ((pending.filter keep).map (·.key)).Nodup :=
  h.sublist (List.filter_sublist.map _)

/-! ## What a step keeps -/

section Steps

variable {make : Maker β} {d d' : Desk β}

/-- A step gives out one new ticket, or none. Of the requests that are accepted or offered it can
drop one. -/
theorem Step.requests (h : Step make d d') :
    (d'.pool.nextTicket = d.pool.nextTicket ∧
      ∃ dropped, (d.ledger.accepted ++ d.call.offered).Perm
        (d'.ledger.accepted ++ d'.call.offered ++ dropped)) ∨
    (d'.pool.nextTicket = d.pool.nextTicket + 1 ∧
      ∃ key, (d'.ledger.accepted ++ d'.call.offered).Perm
        (⟨key, d.pool.nextTicket⟩ :: (d.ledger.accepted ++ d.call.offered))) := by
  cases h with
  | worker hworkers hturn =>
    exact .inl ⟨hturn.frame.2.2, [], .of_eq (List.append_nil _).symm⟩
  | begin request =>
    refine .inl ⟨rfl, [], .of_eq ?_⟩
    cases request <;> exact (List.append_nil _).symm
  | @register p l key h =>
    refine .inr ⟨rfl, key, ?_⟩
    simp only [Call.offered, List.append_nil]
    exact List.perm_append_singleton ..
  | enqueue h =>
    refine .inl ⟨rfl, [], .of_eq ?_⟩
    simp only [Call.offered, Ledger.accept, List.append_nil]
  | @unregister p l task =>
    refine .inl ⟨rfl, [task], .of_eq ?_⟩
    simp only [Call.offered, List.append_nil]
  | @release p l all result =>
    refine .inl ⟨rfl, [], .of_eq ?_⟩
    cases all <;> exact (List.append_nil _).symm
  | _ => exact .inl ⟨rfl, [], .of_eq (List.append_nil _).symm⟩

theorem Step.keys (h : Step make d d') (hd : (d.pool.pending.map (·.key)).Nodup) :
    (d'.pool.pending.map (·.key)).Nodup := by
  cases h with
  | worker hworkers hturn =>
    simp only [hturn.frame.1]
    exact hd
  | @register p l key h =>
    simp only [List.map_append, List.map_cons, List.map_nil]
    refine hd.append (List.nodup_singleton _) ?_
    intro k hmem hsingle
    rw [List.mem_singleton.mp hsingle] at hmem
    exact key_notMem_of_isPending h hmem
  | unregister => exact keys_filter hd _
  | takeOff h => exact keys_filter hd _
  | release => exact keys_filter hd _
  | _ => exact hd

theorem Step.offered (h : Step make d d') (hd : ∀ task ∈ d.call.offered, task ∈ d.pool.pending) :
    ∀ task ∈ d'.call.offered, task ∈ d'.pool.pending := by
  cases h with
  | worker hworkers hturn =>
    simp only [hturn.frame.1]
    exact hd
  | begin request => cases request <;> exact hd
  | register h => exact fun task htask => List.mem_append_right _ htask
  | enqueue h => exact List.forall_mem_nil _
  | unregister => exact List.forall_mem_nil _
  | takeOff h => exact List.forall_mem_nil _
  | @release p l all result => cases all <;> exact List.forall_mem_nil _
  | _ => exact hd

/-- The requests that are withdrawn are those that the caller has cancelled. -/
theorem Step.withdrawn (h : Step make d d')
    (hd : d.pool.withdrawn.reverse = d.ledger.cancelled.map (·.ticket)) :
    d'.pool.withdrawn.reverse = d'.ledger.cancelled.map (·.ticket) := by
  cases h with
  | worker hworkers hturn =>
    simp only [hturn.frame.2.1]
    exact hd
  | withdraw =>
    simp only [Pool.withdraw, Ledger.cancel, List.reverse_cons, List.map_append, List.map_cons,
      List.map_nil]
    rw [hd]
  | _ => exact hd

theorem Step.withdrawn_subset (h : Step make d d') : d.pool.withdrawn ⊆ d'.pool.withdrawn := by
  cases h with
  | worker hworkers hturn =>
    rw [hturn.frame.2.1]
    exact List.Subset.refl _
  | withdraw => exact List.subset_cons_self ..
  | _ => exact List.Subset.refl _

theorem Step.truthful (honest : make.Truthful) (h : Step make d d')
    (hd : ∀ a ∈ d.pool.workers, a.Truthful d.pool.withdrawn) :
    ∀ a ∈ d'.pool.workers, a.Truthful d'.pool.withdrawn := by
  cases h with
  | worker hworkers hturn =>
    have htruthful := truthful_turn honest hworkers hturn hd
    exact htruthful
  | withdraw => exact fun a ha => (hd a ha).mono (List.subset_cons_self _ _)
  | _ => exact hd

theorem Step.due (h : Step make d d')
    (hd : ∀ task ∈ d.call.due, task.ticket ∉ d.pool.withdrawn) :
    ∀ task ∈ d'.call.due, task.ticket ∉ d'.pool.withdrawn := by
  cases h with
  | worker hworkers hturn =>
    simp only [hturn.frame.2.1]
    exact hd
  | begin request => cases request <;> exact hd
  | withdraw => exact List.forall_mem_nil _
  | claim h =>
    intro task htask
    rw [List.mem_singleton.mp htask]
    exact isWithdrawn_eq_false.mp h
  | @release p l all result => cases all <;> exact List.forall_mem_nil _
  | _ => exact hd

end Steps

theorem Step.orderly {make : Maker β} (honest : make.Truthful) {d d' : Desk β}
    (h : Step make d d') (hd : d.Orderly) : d'.Orderly := by
  have hnumbered : Numbered (d'.ledger.accepted ++ d'.call.offered) d'.pool.nextTicket := by
    rcases h.requests with ⟨hnext, dropped, hperm⟩ | ⟨hnext, key, hperm⟩
    · rw [hnext]
      exact (Numbered.perm ⟨hd.fresh, hd.tickets⟩ hperm).of_append_left
    · rw [hnext]
      exact (Numbered.cons ⟨hd.fresh, hd.tickets⟩ key).perm hperm.symm
  exact
    { fresh := hnumbered.fresh
      tickets := hnumbered.tickets
      keys := h.keys hd.keys
      offered := h.offered hd.offered
      withdrawn := h.withdrawn hd.withdrawn
      truthful := h.truthful honest hd.truthful
      due := h.due hd.due }

end Desk

end Pool

end Landform
