import Landform.Document.Form
import Mathlib.Data.List.Forall2
import Mathlib.Tactic.Common

/-! # What documents state

A document states a value if it spells the value in one of the ways that its form allows. What a
document states does not depend on where in a record a field stands, nor on fields of other names. A
document that states a value is read as that value. -/

namespace Landform

namespace Form

/-! ## Plain values -/

/-- A number of a kind. Its suffix, if it has one, names the kind. -/
def StatesNumber (kind : String) (p : Numeral → Prop) (d : Document) : Prop :=
  ∃ n : Numeral, d = .number n ∧ (n.kind = none ∨ n.kind = some kind) ∧ p n

/-- An unsigned integer of 32 bits. -/
def StatesWord32 (v : UInt32) : Document → Prop :=
  StatesNumber "u32" (·.whole = some (v.toNat : Int))

/-- An unsigned integer of 64 bits. -/
def StatesWord64 (v : UInt64) : Document → Prop :=
  StatesNumber "u64" (·.whole = some (v.toNat : Int))

/-- A signed integer of 32 bits. -/
def StatesInt32 (v : Int32) : Document → Prop := StatesNumber "i32" (·.whole = some v.toInt)

/-- A double. -/
def StatesReal (q : Quantity) : Document → Prop := StatesNumber "f64" (·.real = some q)

theorem whole?_of_states {kind : String} {range : Text.WholeRange} {n : Int} {d : Document}
    (h : StatesNumber kind (·.whole = some n) d) (hrange : range.check n = some n) :
    whole? kind range d = some n := by
  obtain ⟨numeral, rfl, hkind, hwhole⟩ := h
  change (if _ then _ else _) = _
  rw [if_pos hkind, hwhole]
  exact hrange

theorem word32?_of_states {v : UInt32} {d : Document} (h : StatesWord32 v d) :
    word32? d = some v := by
  have hrange : Text.WholeRange.word32.check (v.toNat : Int) = some (v.toNat : Int) := by
    have := v.toNat_lt
    refine if_pos ⟨?_, ?_⟩ <;> simp only [Text.WholeRange.word32] <;> omega
  rw [word32?, whole?_of_states h hrange]
  simp

theorem word64?_of_states {v : UInt64} {d : Document} (h : StatesWord64 v d) :
    word64? d = some v := by
  have hrange : Text.WholeRange.word64.check (v.toNat : Int) = some (v.toNat : Int) := by
    have := v.toNat_lt
    refine if_pos ⟨?_, ?_⟩ <;> simp only [Text.WholeRange.word64] <;> omega
  rw [word64?, whole?_of_states h hrange]
  simp

theorem int32?_of_states {v : Int32} {d : Document} (h : StatesInt32 v d) : int32? d = some v := by
  have hrange : Text.WholeRange.int32.check v.toInt = some v.toInt := by
    have := v.le_toInt
    have := v.toInt_lt
    refine if_pos ⟨?_, ?_⟩ <;> simp only [Text.WholeRange.int32] <;> omega
  rw [int32?, whole?_of_states h hrange]
  simp

theorem real?_of_states {q : Quantity} {d : Document} (h : StatesReal q d) : real? d = some q := by
  obtain ⟨numeral, rfl, hkind, hreal⟩ := h
  change (if _ then _ else _) = _
  rw [if_pos hkind, hreal]

/-! ## Choices, options and lists -/

section Parts

variable (f : Form) {β γ : Type}

/-- One of a fixed set of choices, by its word. -/
inductive StatesChoice (word : β → String) (v : β) : Document → Prop
  | plain (h : f.quotedWords = false) : StatesChoice word v (.word (word v))
  | quoted (h : f.quotedWords = true) : StatesChoice word v (.text (word v))
  | alone (h : f.quotedWords = true) : StatesChoice word v (.record none [(word v, .absent)])

/-- An option. -/
inductive StatesOption (states : β → Document → Prop) : Option β → Document → Prop
  | absent : StatesOption states none .absent
  | present {v : β} {d : Document} (h : states v d) : StatesOption states (some v) (.present d)
  | bare {v : β} {d : Document} (hf : f.bareOptions = true) (h : states v d) :
      StatesOption states (some v) d

/-- A list. -/
def StatesList (states : β → Document → Prop) (vs : List β) (d : Document) : Prop :=
  ∃ ds, d = .list ds ∧ List.Forall₂ states vs ds

theorem choice?_of_states {word : β → String} {ofWord? : String → Option β} {v : β} {d : Document}
    (h : f.StatesChoice word v d) (hword : ofWord? (word v) = some v) :
    f.choice? ofWord? d = some v := by
  cases h with
  | plain hf => rw [choice?, if_neg (ne_true_of_eq_false hf), hword]
  | quoted hf => rw [choice?, if_pos hf, hword]
  | alone hf => rw [choice?, if_pos hf, hword]

/-- What has no reading of `None` and of `Some` is never taken for one of them. -/
theorem option?_of_states {states : β → Document → Prop} {read? : Document → Option γ}
    {value : β → γ}
    {v : Option β} {d : Document} (h : f.StatesOption states v d)
    (hread : ∀ v d, states v d → read? d = some (value v)) (habsent : read? .absent = none)
    (hpresent : ∀ d, read? (.present d) = none) :
    f.option? read? d = some (v.map value) := by
  cases h with
  | absent => rfl
  | present h =>
    change (read? _).map some = _
    rw [hread _ _ h]
    rfl
  | bare hf h =>
    have hd := hread _ _ h
    cases d with
    | absent => rw [habsent] at hd; cases hd
    | present d => rw [hpresent] at hd; cases hd
    | _ =>
      change (if f.bareOptions then (read? _).map some else none) = _
      rw [if_pos hf, hd]
      rfl

theorem list?_of_states {states : β → Document → Prop} {read? : Document → Option γ} {value : β → γ}
    {vs : List β} {d : Document} (h : StatesList states vs d)
    (hread : ∀ v d, states v d → read? d = some (value v)) :
    list? read? d = some (vs.map value) := by
  obtain ⟨ds, rfl, hds⟩ := h
  change ds.mapM read? = _
  induction hds with
  | nil => rfl
  | cons hd _ ih =>
    rw [List.mapM_cons, hread _ _ hd, ih]
    rfl

end Parts

/-! ## Records -/

/-- What is asked of the fields of a record: that a field is there and what it states, or that it is
not there. -/
abbrev Demands : Type := List (String × Option (Document → Prop))

/-- The names of the fields that something is asked of. -/
def Demands.names (demands : Demands) : List String := demands.map (·.1)

namespace Fields

/-- Exactly one of the fields has the given name, and it states what it should; or none has. -/
def Gives (r : Fields) (name : String) : Option (Document → Prop) → Prop
  | some states => ∃ d, states d ∧ r.entries.filter (·.1 == name) = [(name, d)]
  | none => r.entries.filter (·.1 == name) = []

variable {r : Fields} {name : String}

theorem Gives.countP_le {demand : Option (Document → Prop)} (h : r.Gives name demand) :
    r.entries.countP (·.1 == name) ≤ 1 := by
  rw [List.countP_eq_length_filter]
  cases demand with
  | none =>
    change r.entries.filter (·.1 == name) = [] at h
    rw [h]
    exact Nat.zero_le 1
  | some states =>
    obtain ⟨d, -, hd⟩ := h
    rw [hd]
    exact Nat.le_refl 1

theorem Gives.get?_eq_some {states : Document → Prop} (h : r.Gives name (some states)) :
    ∃ d, r.get? name = some d ∧ states d := by
  obtain ⟨d, hstates, hd⟩ := h
  refine ⟨d, ?_, hstates⟩
  rw [get?, ← List.head?_filter, hd]
  rfl

theorem Gives.get?_eq_none (h : r.Gives name none) : r.get? name = none := by
  change r.entries.filter (·.1 == name) = [] at h
  rw [get?, ← List.head?_filter, h]
  rfl

variable {β γ : Type} {states : β → Document → Prop} {read? : Document → Option γ} {value : β → γ}

theorem Gives.need? {v : β} {read? : Document → Option β} (h : r.Gives name (some (states v)))
    (hread : ∀ d, states v d → read? d = some v) : r.need? name read? = some v := by
  obtain ⟨d, hget, hd⟩ := h.get?_eq_some
  rw [Fields.need?, hget]
  exact hread d hd

/-- A field that is given has the value that is stated, and one that is not has the default. -/
theorem Gives.getD? {given : Option β} (h : r.Gives name (given.map states)) (default : γ)
    (hread : ∀ v d, states v d → read? d = some (value v)) :
    r.getD? name default read? = some ((given.map value).getD default) := by
  cases given with
  | none => rw [Fields.getD?, h.get?_eq_none, Option.map_none, Option.getD_none]
  | some v =>
    obtain ⟨d, hget, hd⟩ := h.get?_eq_some
    rw [Fields.getD?, hget]
    exact hread v d hd

/-- The same for a field whose statements are of the values themselves. -/
theorem Gives.value? {given : Option β} {read? : Document → Option β}
    (h : r.Gives name (given.map states)) (default : β)
    (hread : ∀ v d, states v d → read? d = some v) :
    r.getD? name default read? = some (given.getD default) := by
  have hvalue : r.getD? name default read? = some ((given.map id).getD default) :=
    h.getD? default hread
  rw [Option.map_id] at hvalue
  exact hvalue

end Fields

variable (f : Form)

/-- The ways to write a record with the given name and known fields: with names for the fields, or
field after field as a list, or, where there is no such list, as an empty tuple. -/
inductive Holds (name : String) (known : List String) : Document → Fields → Prop
  | record {given : Option String} {entries : List (String × Document)}
      (hname : given = some name ∨ given = none ∧ f.namedRecords = false) :
      Holds name known (.record given entries) ⟨entries⟩
  | bare {entries : List (String × Document)} : Holds name known (.bare entries) ⟨entries⟩
  | tuple {given : Option String}
      (hname : given = some name ∨ given = none ∧ f.namedRecords = false)
      (hlist : f.listRecords = false) : Holds name known (.tuple given []) ⟨[]⟩
  | list {items : List Document} (hlist : f.listRecords = true)
      (hlength : items.length ≤ known.length) :
      Holds name known (.list items) ⟨known.zip items⟩

/-- A record that gives what is asked of its fields. Where they stand does not matter, nor what
other fields there are. -/
def StatesRecord (name : String) (demands : Demands) (d : Document) : Prop :=
  ∃ r, f.Holds name demands.names d r ∧ ∀ p ∈ demands, r.Gives p.1 p.2

variable {f} {name : String} {demands : Demands}

theorem named_iff {given : Option String} :
    f.named name given = true ↔ given = some name ∨ given = none ∧ f.namedRecords = false := by
  cases given with
  | none => simp [named]
  | some given => simp [named]

theorem uniqueFields?_of_countP {known : List String} {entries : List (String × Document)}
    (h : ∀ k ∈ known, entries.countP (·.1 == k) ≤ 1) :
    uniqueFields? known entries = some ⟨entries⟩ := by
  refine if_neg fun hany => ?_
  obtain ⟨k, hk, hcount⟩ := List.any_eq_true.mp hany
  exact absurd (of_decide_eq_true hcount) (Nat.not_lt.mpr (h k hk))

theorem Holds.record?_eq {known : List String} {d : Document} {r : Fields}
    (h : f.Holds name known d r) (hcount : ∀ k ∈ known, r.entries.countP (·.1 == k) ≤ 1) :
    f.record? name known d = some r := by
  cases h with
  | record hname => exact (if_pos (named_iff.mpr hname)).trans (uniqueFields?_of_countP hcount)
  | bare => exact uniqueFields?_of_countP hcount
  | tuple hname hlist => exact if_pos ⟨hlist, named_iff.mpr hname⟩
  | list hlist hlength => exact if_pos ⟨hlist, hlength⟩

/-- A record that gives what is asked is read, and what is made of its fields counts. -/
theorem StatesRecord.read {β : Type} {d : Document} (h : f.StatesRecord name demands d)
    {make? : Fields → Option β} {v : β}
    (hmake : ∀ r, (∀ p ∈ demands, r.Gives p.1 p.2) → make? r = some v) :
    f.record? name demands.names d >>= make? = some v := by
  obtain ⟨r, hr, hgives⟩ := h
  have hcount : ∀ k ∈ demands.names, r.entries.countP (·.1 == k) ≤ 1 := by
    intro k hk
    obtain ⟨p, hp, rfl⟩ := List.mem_map.mp hk
    exact (hgives p hp).countP_le
  rw [hr.record?_eq hcount]
  exact hmake r hgives

/-- Fields in another order, among others of unknown names, give the same. -/
theorem Fields.Gives.of_perm {demand : Option (Document → Prop)} {known : List String}
    {entries entries' : List (String × Document)} (hk : name ∈ known)
    (hperm : (entries'.filter (known.contains ·.1)).Perm (entries.filter (known.contains ·.1)))
    (h : (⟨entries⟩ : Fields).Gives name demand) : (⟨entries'⟩ : Fields).Gives name demand := by
  have hfilter (l : List (String × Document)) :
      (l.filter (known.contains ·.1)).filter (·.1 == name) = l.filter (·.1 == name) := by
    rw [List.filter_filter]
    refine List.filter_congr fun e _ => ?_
    by_cases he : e.1 = name
    · simp [he, hk]
    · simp [he]
  have hname := hperm.filter (·.1 == name)
  rw [hfilter, hfilter] at hname
  cases demand with
  | none =>
    change entries.filter (·.1 == name) = [] at h
    rw [h] at hname
    exact hname.eq_nil
  | some states =>
    obtain ⟨d, hd, hentry⟩ := h
    rw [hentry] at hname
    exact ⟨d, hd, List.perm_singleton.mp hname⟩

theorem StatesRecord.of_perm {given : Option String} {entries entries' : List (String × Document)}
    (hperm : (entries'.filter (demands.names.contains ·.1)).Perm
      (entries.filter (demands.names.contains ·.1)))
    (h : f.StatesRecord name demands (.record given entries)) :
    f.StatesRecord name demands (.record given entries') := by
  obtain ⟨r, hr, hgives⟩ := h
  cases hr with
  | record hname =>
    refine ⟨⟨entries'⟩, .record hname, fun p hp => ?_⟩
    exact Fields.Gives.of_perm (List.mem_map_of_mem hp) hperm (hgives p hp)

end Form

end Landform
