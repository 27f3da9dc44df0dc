import Landform.Number.Decimal
import Landform.Number.Layout
import Mathlib

/-! # Spelled decimals are read back

The text of a number is digits with a point among them, an exponent, or both. It is read as a
decimal of the same value: the digits that are written, which may have zeros added to them, at the
power of ten that the point and the exponent give. -/

namespace Landform

/-- The parts of a decimal's text. -/
structure Spelling where
  whole : List Char
  part : List Char
  exponent : Option Int

namespace Spelling

/-- The point and the digits after it, if there are any. -/
def partText (s : Spelling) : List Char := if s.part.isEmpty then [] else '.' :: s.part

/-- The exponent after its mark, if there is one. -/
def exponentText (s : Spelling) : List Char :=
  match s.exponent with
  | none => []
  | some e => 'e' :: (toString e).toList

/-- The text of a decimal without its sign. -/
def text (s : Spelling) : List Char := s.whole ++ (s.partText ++ s.exponentText)

/-- The decimal that is spelled. -/
def digits (s : Spelling) : Digits :=
  ⟨Decimal.run (s.whole ++ s.part), s.exponent.getD 0 - s.part.length⟩

/-- There are digits, and a point or an exponent shows that the number is no integer. -/
structure Shown (s : Spelling) : Prop where
  whole_ne_nil : s.whole ≠ []
  isDigit_whole : ∀ c ∈ s.whole, c.isDigit = true
  isDigit_part : ∀ c ∈ s.part, c.isDigit = true
  marked : s.part ≠ [] ∨ s.exponent.isSome = true

end Spelling

/-! ## Runs of digits -/

namespace Text

/-- A run of characters of a kind, up to one that is not. -/
theorem takeWhile_append_of_head {p : Char → Bool} {w rest : List Char} (hw : ∀ c ∈ w, p c = true)
    (hrest : ∀ c ∈ rest.head?, p c = false) :
    (w ++ rest).takeWhile p = w ∧ (w ++ rest).dropWhile p = rest := by
  rw [List.takeWhile_append_of_pos hw, List.dropWhile_append_of_pos hw]
  cases rest with
  | nil => simp
  | cons c rest => simp [hrest c rfl]

theorem digits?_of_isDigit {cs : List Char} (hne : cs ≠ []) (h : ∀ c ∈ cs, c.isDigit = true) :
    digits? cs = some (Nat.ofDigitChars 10 cs 0) := by
  have hempty : cs.isEmpty = false := List.isEmpty_eq_false_iff.mpr hne
  have hall : cs.all Char.isDigit = true := List.all_eq_true.mpr h
  rw [digits?, hempty, hall, Nat.ofDigitChars_eq_foldl]
  rfl

theorem isDigit_of_mem_toDigits {c : Char} {n : Nat} (h : c ∈ Nat.toDigits 10 n) :
    c.isDigit = true :=
  Nat.isDigit_of_mem_toDigits (by decide) (by decide) h

theorem digits?_toDigits (n : Nat) : digits? (Nat.toDigits 10 n) = some n := by
  rw [digits?_of_isDigit Nat.toDigits_ne_nil fun _ => isDigit_of_mem_toDigits,
    Nat.ofDigitChars_ten_toDigits]

/-- The sign of a number, of which only a minus is written. -/
def signText (minus : Bool) : List Char := if minus then ['-'] else []

theorem splitSign_append {cs : List Char} (minus : Bool) (h : ∀ c ∈ cs.head?, c.isDigit = true) :
    splitSign (signText minus ++ cs) = (minus, cs) := by
  cases minus with
  | true => rfl
  | false =>
    change splitSign cs = _
    unfold splitSign
    split
    · exact absurd (h '+' rfl) (by decide)
    · exact absurd (h '-' rfl) (by decide)
    · rfl

theorem isDigit_head_toDigits (n : Nat) : ∀ c ∈ (Nat.toDigits 10 n).head?, c.isDigit = true := by
  intro c hc
  exact isDigit_of_mem_toDigits (List.mem_of_mem_head? hc)

theorem eq_of_mem_signText {minus : Bool} {c : Char} (h : c ∈ signText minus) : c = '-' := by
  cases minus with
  | true => exact List.mem_singleton.mp h
  | false => cases h

theorem toList_toString (e : Int) :
    (toString e).toList = signText (decide (e < 0)) ++ Nat.toDigits 10 e.natAbs := by
  rw [Int.toString_eq_repr, Int.repr_eq_if]
  split
  · rename_i h
    have hneg : decide (e < 0) = false := by simpa using h
    rw [hneg, Nat.toList_repr, ← Int.toNat_of_nonneg h, Int.toNat_natCast, Int.natAbs_natCast]
    rfl
  · rename_i h
    have hneg : decide (e < 0) = true := by simpa using h
    have habs : (-e).toNat = e.natAbs := by omega
    rw [hneg, String.toList_append, Nat.toList_repr, habs]
    rfl

theorem splitSign_toString (e : Int) :
    splitSign (toString e).toList = (decide (e < 0), Nat.toDigits 10 e.natAbs) := by
  rw [toList_toString, splitSign_append _ (isDigit_head_toDigits _)]

theorem isDigit_of_mem_toString {e : Int} {c : Char} (h : c ∈ (toString e).toList) :
    c.isDigit = true ∨ c = '-' := by
  rw [toList_toString] at h
  rcases List.mem_append.mp h with h | h
  · exact .inr (eq_of_mem_signText h)
  · exact .inl (isDigit_of_mem_toDigits h)

theorem signed_natAbs (e : Int) : (if decide (e < 0) then -(e.natAbs : Int) else e.natAbs) = e := by
  by_cases h : e < 0
  · rw [decide_eq_true h, if_pos rfl]
    omega
  · rw [decide_eq_false h, if_neg Bool.false_ne_true]
    omega

end Text

namespace Decimal

theorem run_eq (cs : List Char) : run cs = Nat.ofDigitChars 10 cs 0 := by
  rw [Nat.ofDigitChars_eq_foldl]
  rfl

theorem run_toDigits (n : Nat) : run (Nat.toDigits 10 n) = n := by
  rw [run_eq, Nat.ofDigitChars_ten_toDigits]

theorem exponent?_toString (e : Int) : exponent? (toString e).toList = some e := by
  rw [exponent?, Text.splitSign_toString]
  change ((Text.digits? _).bind _).map _ = _
  rw [Text.digits?_toDigits]
  exact congrArg some (Text.signed_natAbs e)

end Decimal

/-! ## Reading -/

namespace Spelling

variable {s : Spelling}

theorem head_exponentText (s : Spelling) : ∀ c ∈ s.exponentText.head?, c = 'e' := by
  intro c hc
  unfold exponentText at hc
  split at hc
  · cases hc
  · exact (Option.mem_some_iff.mp hc).symm

theorem head_partText (s : Spelling) :
    ∀ c ∈ (s.partText ++ s.exponentText).head?, c = '.' ∨ c = 'e' := by
  intro c hc
  unfold partText at hc
  split at hc
  · exact .inr (head_exponentText s c hc)
  · exact .inl (Option.mem_some_iff.mp hc).symm

theorem Shown.isDigit_head (h : s.Shown) : ∀ c ∈ s.text.head?, c.isDigit = true := by
  intro c hc
  obtain ⟨d, ds, hwhole⟩ := List.exists_cons_of_ne_nil h.whole_ne_nil
  rw [text, hwhole] at hc
  obtain rfl := Option.mem_some_iff.mp hc
  exact h.isDigit_whole d (hwhole ▸ List.mem_cons_self)

/-- A decimal is read as the one that is spelled. -/
theorem Shown.magnitude?_text (h : s.Shown) : Decimal.magnitude? s.text = some s.digits := by
  have hmark : ∀ c ∈ (s.partText ++ s.exponentText).head?, c.isDigit = false := by
    intro c hc
    rcases head_partText s c hc with rfl | rfl <;> decide
  have hexponent : ∀ c ∈ s.exponentText.head?, c.isDigit = false := by
    intro c hc
    obtain rfl := head_exponentText s c hc
    decide
  obtain ⟨htake, hdrop⟩ := Text.takeWhile_append_of_head h.isDigit_whole hmark
  obtain ⟨htake', hdrop'⟩ := Text.takeWhile_append_of_head h.isDigit_part hexponent
  have hempty : s.whole.isEmpty = false := List.isEmpty_eq_false_iff.mpr h.whole_ne_nil
  unfold Decimal.magnitude?
  rw [text, htake, hdrop]
  obtain ⟨whole, part, exponent⟩ := s
  cases part with
  | nil =>
    -- without a point there is an exponent
    cases exponent with
    | none => exact absurd h.marked (by simp)
    | some e =>
      change (if whole.isEmpty && true then none
        else (Decimal.exponent? (toString e).toList).map _) = _
      rw [show whole.isEmpty = false from hempty, Decimal.exponent?_toString]
      rfl
  | cons d ds =>
    have htext : partText ⟨whole, d :: ds, exponent⟩ ++ exponentText ⟨whole, d :: ds, exponent⟩ =
        '.' :: (d :: ds ++ exponentText ⟨whole, d :: ds, exponent⟩) := rfl
    simp only at htake' hdrop' hempty
    simp only [htext, htake', hdrop', hempty, Bool.false_and, Bool.false_eq_true, if_false]
    cases exponent with
    | none => rfl
    | some e =>
      change (Decimal.exponent? (toString e).toList).map _ = _
      rw [Decimal.exponent?_toString]
      rfl

theorem Shown.read?_text (h : s.Shown) (minus : Bool) :
    Decimal.read? (Text.signText minus ++ s.text) =
      some (if minus then -s.digits.toFloat else s.digits.toFloat) := by
  rw [Decimal.read?, Text.splitSign_append minus h.isDigit_head]
  change (Decimal.magnitude? _).map _ = _
  rw [h.magnitude?_text]
  rfl

/-! ## Writing -/

theorem run_append_zeros (cs : List Char) (k : Nat) :
    Decimal.run (cs ++ List.replicate k '0') = Decimal.run cs * 10 ^ k := by
  rw [Decimal.run_eq, Decimal.run_eq, Nat.ofDigitChars_append, Nat.ofDigitChars_replicate_zero,
    Nat.mul_comm]

theorem run_zeros_append (k : Nat) (cs : List Char) :
    Decimal.run (List.replicate k '0' ++ cs) = Decimal.run cs := by
  rw [Decimal.run_eq, Decimal.run_eq, Nat.ofDigitChars_append, Nat.ofDigitChars_replicate_zero,
    Nat.mul_zero]

theorem isDigit_zero : ∀ c ∈ ['0'], c.isDigit = true := List.forall_mem_singleton.mpr rfl

theorem isDigit_zeros {k : Nat} {c : Char} (h : c ∈ List.replicate k '0') : c.isDigit = true := by
  obtain rfl := List.eq_of_mem_replicate h
  decide

/-- A text that is read as the decimal, or as the decimal with zeros up to the first place after the
point. -/
def Spells (text : List Char) (d : Digits) : Prop :=
  ∃ s : Spelling, s.Shown ∧ s.text = text ∧
    ∃ k : Nat, s.digits = ⟨d.digits * 10 ^ k, d.exponent - k⟩ ∧ (k = 0 ∨ d.exponent - k = -1)

section Layout

variable {ds : List Char} {e : Int}

/-- Zeros after the point and before the digits. -/
theorem spells_leading (hds : ds ≠ []) (hdigit : ∀ c ∈ ds, c.isDigit = true)
    (he : e + ds.length ≤ 0) :
    Spells ('0' :: '.' :: (List.replicate (-(e + ds.length)).toNat '0' ++ ds))
      ⟨Decimal.run ds, e⟩ := by
  generalize hk : (-(e + ds.length)).toNat = k
  refine ⟨⟨['0'], List.replicate k '0' ++ ds, none⟩, ⟨by simp, isDigit_zero, ?_, ?_⟩, ?_, 0,
    ?_, .inl rfl⟩
  · intro c hc
    rcases List.mem_append.mp hc with hc | hc
    · exact isDigit_zeros hc
    · exact hdigit c hc
  · exact .inl (List.append_ne_nil_of_right_ne_nil _ hds)
  · simp [text, partText, exponentText, hds]
  · have hrun : Decimal.run ('0' :: (List.replicate k '0' ++ ds)) = Decimal.run ds := by
      rw [← List.cons_append, ← List.replicate_succ, run_zeros_append]
    simp only [digits, Option.getD_none, List.length_append, List.length_replicate]
    change (⟨Decimal.run ('0' :: (List.replicate k '0' ++ ds)), _⟩ : Digits) = _
    rw [hrun, Digits.mk.injEq]
    refine ⟨by simp, ?_⟩
    omega

/-- Zeros after the digits, up to the point and one place further. -/
theorem spells_trailing (hds : ds ≠ []) (hdigit : ∀ c ∈ ds, c.isDigit = true) (k : Nat) :
    Spells (ds ++ List.replicate k '0' ++ ['.', '0']) ⟨Decimal.run ds, k⟩ := by
  refine ⟨⟨ds ++ List.replicate k '0', ['0'], none⟩, ⟨?_, ?_, isDigit_zero, .inl (by simp)⟩, ?_,
    k + 1, ?_, .inr ?_⟩
  · exact List.append_ne_nil_of_left_ne_nil hds _
  · intro c hc
    rcases List.mem_append.mp hc with hc | hc
    · exact hdigit c hc
    · exact isDigit_zeros hc
  · simp [text, partText, exponentText]
  · have hzeros : ds ++ List.replicate k '0' ++ ['0'] = ds ++ List.replicate (k + 1) '0' := by
      rw [List.replicate_succ', List.append_assoc]
    simp only [digits, hzeros, run_append_zeros]
    rw [Digits.mk.injEq]
    refine ⟨rfl, ?_⟩
    change (0 : Int) - (1 : Nat) = k - ((k + 1 : Nat) : Int)
    omega
  · change (k : Int) - ((k + 1 : Nat) : Int) = -1
    omega

/-- The point among the digits. -/
theorem spells_around (hdigit : ∀ c ∈ ds, c.isDigit = true) {i : Nat} (hi : 0 < i)
    (hlength : i < ds.length) :
    Spells (ds.take i ++ '.' :: ds.drop i) ⟨Decimal.run ds, (i : Int) - ds.length⟩ := by
  have hdrop : ds.drop i ≠ [] := by simpa using hlength
  refine ⟨⟨ds.take i, ds.drop i, none⟩, ⟨?_, ?_, ?_, .inl hdrop⟩, ?_, 0, ?_, .inl rfl⟩
  · intro htake
    have hlen := congrArg List.length htake
    rw [List.length_take, List.length_nil] at hlen
    omega
  · exact fun c hc => hdigit c (List.mem_of_mem_take hc)
  · exact fun c hc => hdigit c (List.mem_of_mem_drop hc)
  · have hempty : (ds.drop i).isEmpty = false := List.isEmpty_eq_false_iff.mpr hdrop
    simp [text, partText, exponentText, hempty]
  · simp only [digits, List.take_append_drop, List.length_drop]
    rw [Digits.mk.injEq]
    refine ⟨by simp, ?_⟩
    simp only [Option.getD_none]
    omega

/-- One digit, the others after a point, and an exponent. -/
theorem spells_scientific (hds : ds ≠ []) (hdigit : ∀ c ∈ ds, c.isDigit = true) :
    Spells (NumberLayout.exponentText ds (e + ds.length - 1)).toList ⟨Decimal.run ds, e⟩ := by
  have hlength : 0 < ds.length := List.length_pos_iff.mpr hds
  refine ⟨⟨ds.take 1, ds.drop 1, some (e + ds.length - 1)⟩, ⟨?_, ?_, ?_, .inr rfl⟩, ?_, 0, ?_,
    .inl rfl⟩
  · intro htake
    have hlen := congrArg List.length htake
    rw [List.length_take, List.length_nil] at hlen
    omega
  · exact fun c hc => hdigit c (List.mem_of_mem_take hc)
  · exact fun c hc => hdigit c (List.mem_of_mem_drop hc)
  · by_cases hrest : ds.tail = [] <;>
      simp [text, partText, exponentText, NumberLayout.exponentText, hrest]
  · simp only [digits, List.take_append_drop, List.length_drop]
    rw [Digits.mk.injEq]
    refine ⟨by simp, ?_⟩
    simp only [Option.getD_some]
    omega

end Layout

/-- The text of a magnitude spells it. -/
theorem spells_magnitudeText (d : Digits) :
    Spells (NumberLayout.pointed.magnitudeText d).toList d := by
  obtain ⟨n, e⟩ := d
  have hne : Nat.toDigits 10 n ≠ [] := Nat.toDigits_ne_nil
  have hrun := Decimal.run_toDigits n
  have hdigit : ∀ c ∈ Nat.toDigits 10 n, c.isDigit = true := fun _ => Text.isDigit_of_mem_toDigits
  unfold NumberLayout.magnitudeText
  simp only
  generalize Nat.toDigits 10 n = ds at hne hrun hdigit ⊢
  subst hrun
  -- positional, with the point before, after or among the digits; or with an exponent
  split
  · unfold NumberLayout.positionalText
    have hpoint : e + ds.length - 1 + 1 = e + ds.length := by omega
    rw [hpoint]
    split
    · rename_i hbefore
      simpa using spells_leading hne hdigit hbefore
    · rename_i hbefore
      simp only
      split
      · rename_i hafter
        obtain ⟨k, rfl⟩ : ∃ k : Nat, e = k := ⟨e.toNat, by omega⟩
        have hk : ((k : Int) + ds.length).toNat - ds.length = k := by omega
        rw [hk]
        simpa [NumberLayout.pointed] using spells_trailing hne hdigit k
      · rename_i hafter
        have hi : 0 < (e + ds.length).toNat := by omega
        have haround := spells_around hdigit hi (by omega)
        have he : ((e + ds.length).toNat : Int) - ds.length = e := by omega
        rw [he] at haround
        simpa using haround
  · exact spells_scientific hne hdigit

end Spelling

end Landform
