import Landform.Number.Quantity
import Landform.Proofs.Number.Shortest
import Landform.Proofs.Number.Spelling

/-! # Numbers and their texts

The text of a double that is not undefined spells it. -/

namespace Landform

/-- A quantity that is not an undefined number. -/
def Quantity.IsNumber (q : Quantity) : Prop := q.value.isNaN = false ∧ q.minus = false

instance : DecidablePred Quantity.IsNumber := fun _ => inferInstanceAs (Decidable (_ ∧ _))

/-! ## Texts -/

section Finite

open Float.Model.UnpackedFloat (Sign)

variable {m : ℕ} {q : ℤ}

/-- Whether a sign is written. -/
def isMinus : Sign → Bool
  | .positive => false
  | .negative => true

section Bits

variable {bits : UInt64} {s : Sign} {n : ℕ} (hbits : bits.toNat = s.toBitVec.toNat * 2 ^ 63 + n)
  (hn : n < 2 ^ 63)
include hbits hn

theorem toNat_magnitude : (bits &&& 0x7FFFFFFFFFFFFFFF).toNat = n := by
  have hand := Nat.and_two_pow_sub_one_eq_mod bits.toNat 63
  rw [UInt64.toNat_and]
  change bits.toNat &&& 2 ^ 63 - 1 = n
  rw [hand, hbits]
  omega

/-- Where the bits say so, a minus is written. -/
theorem toList_sign :
    (if bits >>> 63 == 1 then "-" else "").toList = Text.signText (isMinus s) := by
  have hshift : (bits >>> 63).toNat = s.toBitVec.toNat := by
    have hs := s.toBitVec.isLt
    rw [UInt64.toNat_shiftRight]
    change bits.toNat >>> 63 = _
    rw [Nat.shiftRight_eq_div_pow, hbits]
    omega
  cases s with
  | negative =>
    have hone : bits >>> 63 = 1 := UInt64.toNat_inj.mp hshift
    rw [hone]
    rfl
  | positive =>
    have hzero : bits >>> 63 = 0 := UInt64.toNat_inj.mp hshift
    rw [hzero]
    rfl

end Bits

/-- A finite double other than zero is written as its shortest decimal. -/
theorem Canonical.text_float (h : Canonical m q) (s : Sign) :
    (NumberLayout.pointed.text (h.float s)).toList =
      Text.signText (isMinus s) ++
        (NumberLayout.pointed.magnitudeText (Shortest.decimal m q)).toList := by
  have hnan : (h.float s).isNaN = false := by
    change (h.float s).toModel.unpack.isNaN = false
    rw [h.unpack_float]
    rfl
  obtain ⟨n, hencodes, hbits⟩ := h.toNat_toBits s
  have hlt := hencodes.lt
  have hpos := hencodes.pos h.pos
  unfold NumberLayout.text
  rw [hnan, if_neg Bool.false_ne_true]
  dsimp only
  generalize (h.float s).toBits = bits at hbits
  have hsign := toList_sign hbits (by omega)
  have hmagnitude := toNat_magnitude hbits (by omega)
  generalize bits &&& 0x7FFFFFFFFFFFFFFF = magnitude at hmagnitude
  subst hmagnitude
  -- the exponent is not that of infinity, and not all bits are zero
  have hinfinite : (magnitude == 0x7FF0000000000000) = false := by
    rw [beq_eq_false_iff_ne]
    rintro rfl
    exact absurd hlt (by decide)
  have hzero : (magnitude == 0) = false := by
    rw [beq_eq_false_iff_ne]
    rintro rfl
    exact absurd hpos (by decide)
  simp only [hinfinite, hzero, Shortest.ofBits_eq hencodes, Bool.false_eq_true, if_false,
    String.toList_append, hsign]

/-- A text that spells the shortest decimal of a double spells the double. -/
theorem Canonical.toFloat_of_spells (h : Canonical m q) {text : List Char}
    (hspells : Spelling.Spells text (Shortest.decimal m q)) :
    ∃ s : Spelling, s.Shown ∧ s.text = text ∧ s.digits.toFloat = h.float .positive := by
  obtain ⟨hnearest, hexponent⟩ := Shortest.nearest_decimal h
  obtain ⟨s, hshown, htext, k, hdigits, hk⟩ := hspells
  refine ⟨s, hshown, htext, ?_⟩
  rw [hdigits]
  apply h.toFloat_eq
  · -- zeros after the point do not change the value
    have hvalue : (((Shortest.decimal m q).digits * 10 ^ k : ℕ) : ℚ) *
        10 ^ ((Shortest.decimal m q).exponent - k) =
        (Shortest.decimal m q).digits * 10 ^ (Shortest.decimal m q).exponent := by
      rw [zpow_sub₀ (by norm_num), zpow_natCast]
      push_cast
      field_simp
    rw [hvalue]
    exact hnearest
  · simp only
    rcases hk with rfl | hk <;> omega

end Finite

/-- The infinite double with a sign. -/
def infinite (minus : Bool) : Float :=
  Float.ofBits (if minus then 0xFFF0000000000000 else 0x7FF0000000000000)

/-- The text of a number: that of an infinite one, or a decimal that reads as the number. -/
theorem Quantity.IsNumber.text {q : Quantity} (h : q.IsNumber) :
    (∃ minus, q.text.toList = Text.signText minus ++ "inf".toList ∧ q = .ofFloat (infinite minus)) ∨
      ∃ (minus : Bool) (s : Spelling), s.Shown ∧ q.text.toList = Text.signText minus ++ s.text ∧
        q = .ofFloat (if minus then -s.digits.toFloat else s.digits.toFloat) := by
  obtain ⟨x, minus⟩ := q
  obtain ⟨hnan, rfl : minus = false⟩ := h
  rcases cases_of_isNaN hnan with ⟨s, rfl⟩ | ⟨s, rfl⟩ | ⟨m, q, hcanonical, s, rfl⟩
  · left
    refine ⟨isMinus s, ?_, ?_⟩
    · cases s <;> decide +kernel
    · cases s <;> rfl
  · right
    have hzero := Spelling.isDigit_zero
    refine ⟨isMinus s, ⟨['0'], ['0'], none⟩, ⟨by simp, hzero, hzero, .inl (by simp)⟩, ?_, ?_⟩
    · cases s <;> decide +kernel
    · cases s <;> rfl
  · right
    obtain ⟨spelling, hshown, htext, hfloat⟩ :=
      hcanonical.toFloat_of_spells (Spelling.spells_magnitudeText (Shortest.decimal m q))
    refine ⟨isMinus s, spelling, hshown, ?_, ?_⟩
    · rw [htext]
      exact hcanonical.text_float s
    · rw [hfloat]
      cases s with
      | positive => rfl
      | negative => exact congrArg Quantity.ofFloat hcanonical.neg_float.symm

end Landform
