import Landform.Number.Quantity
import Landform.Proofs.Number.Packing

/-! # When numbers are equal

An undefined number is equal to none, itself included. All others are equal where they are the same,
but for the two zeros, which are equal as well. So equality compares what is left of a number when
the sign of zero is dropped. -/

namespace Landform

open Float.Model
open UnpackedFloat (Sign)

/-! ## What doubles stand for -/

theorem compare_sign_eq_iff {s t : Sign} : compare s t = .eq ↔ s = t := by
  cases s <;> cases t
  case negative.negative | positive.positive => exact ⟨fun _ => rfl, fun _ => rfl⟩
  case negative.positive | positive.negative => exact ⟨nofun, nofun⟩

/-- What compares equal is the same, unless both are zero. -/
theorem compare_eq_iff {u v : UnpackedFloat} :
    u.compare v = some .eq ↔
      u.isNaN = false ∧ (u = v ∨ (∃ s, u = .zero s) ∧ ∃ s, v = .zero s) := by
  -- comparing looks at the signs only where it needs them, so these are told apart last
  cases u with
  | notANumber => simp [UnpackedFloat.compare, UnpackedFloat.isNaN]
  | infinity s =>
    cases v with
    | infinity t => simp [UnpackedFloat.compare, UnpackedFloat.isNaN, compare_sign_eq_iff]
    | finite t | zero t => cases s <;> simp [UnpackedFloat.compare]
    | notANumber => simp [UnpackedFloat.compare]
  | zero s =>
    cases v with
    | infinity t | finite t => cases t <;> simp [UnpackedFloat.compare]
    | zero t => simp [UnpackedFloat.compare, UnpackedFloat.isNaN]
    | notANumber => simp [UnpackedFloat.compare]
  | finite s m q hpos =>
    cases v with
    | finite t m' q' hpos' =>
      cases s <;> cases t <;>
        simp [UnpackedFloat.compare, UnpackedFloat.isNaN, Ordering.then_eq_eq, and_comm]
    | infinity t => cases t <;> simp [UnpackedFloat.compare]
    | zero t => cases s <;> simp [UnpackedFloat.compare]
    | notANumber => simp [UnpackedFloat.compare]

/-! ## Doubles -/

variable {x y : Float}

theorem unpack_inj : x.toModel.unpack = y.toModel.unpack ↔ x = y := by
  refine ⟨fun h => ?_, fun h => h ▸ rfl⟩
  rw [← ofModel_pack_unpack x, h, ofModel_pack_unpack y]

/-- One of the two zeros. -/
def IsZero (x : Float) : Prop := ∃ s, x.toModel.unpack = .zero s

/-- Numbers are equal that are the same, unless they are undefined, and so are the two zeros. -/
theorem beq_iff_eq_or_isZero :
    (x == y) = true ↔ x.isNaN = false ∧ (x = y ∨ IsZero x ∧ IsZero y) := by
  have hcompare : (x == y) = (x.toModel.unpack.compare y.toModel.unpack == some .eq) := rfl
  rw [hcompare, beq_iff_eq, compare_eq_iff, unpack_inj]
  rfl

theorem isZero_zero : IsZero 0 := ⟨.positive, rfl⟩

theorem beq_zero_iff : (x == 0) = true ↔ IsZero x := by
  have hnumber : IsZero x → x.isNaN = false := fun ⟨s, hs⟩ => congrArg UnpackedFloat.isNaN hs
  rw [beq_iff_eq_or_isZero]
  constructor
  · rintro ⟨-, rfl | ⟨hzero, -⟩⟩
    · exact isZero_zero
    · exact hzero
  · exact fun hzero => ⟨hnumber hzero, .inr ⟨hzero, isZero_zero⟩⟩

/-- A number without the sign that zero may have. -/
def unsignZero (x : Float) : Float := if x == 0 then 0 else x

theorem unsignZero_of_isZero (h : IsZero x) : unsignZero x = 0 := if_pos (beq_zero_iff.2 h)

theorem unsignZero_of_not_isZero (h : ¬IsZero x) : unsignZero x = x :=
  if_neg (mt beq_zero_iff.1 h)

theorem unsignZero_eq_zero_iff : unsignZero x = 0 ↔ IsZero x := by
  refine ⟨fun h => ?_, unsignZero_of_isZero⟩
  by_contra hx
  rw [unsignZero_of_not_isZero hx] at h
  exact hx (h ▸ isZero_zero)

/-- Numbers are equal that are the same without the sign of zero, unless they are undefined. -/
theorem beq_iff_unsignZero : (x == y) = true ↔ x.isNaN = false ∧ unsignZero x = unsignZero y := by
  rw [beq_iff_eq_or_isZero, and_congr_right_iff]
  intro _
  by_cases hx : IsZero x
  · -- both sides ask whether the other number is a zero too
    rw [unsignZero_of_isZero hx, eq_comm (a := 0), unsignZero_eq_zero_iff]
    refine ⟨?_, fun hy => .inr ⟨hx, hy⟩⟩
    rintro (rfl | ⟨-, hy⟩)
    · exact hx
    · exact hy
  · -- this number is kept as it is, and no zero becomes what it is
    rw [or_iff_left fun h => hx h.1, unsignZero_of_not_isZero hx]
    refine ⟨fun h => h ▸ (unsignZero_of_not_isZero hx).symm, fun h => ?_⟩
    have hy : ¬IsZero y := by
      intro hy
      exact hx (h ▸ unsignZero_of_isZero hy ▸ isZero_zero)
    rw [h, unsignZero_of_not_isZero hy]

end Landform
