import Landform.Number.Scalar
import Landform.Proofs.Number.Equality
import Mathlib.Algebra.Order.Group.Int
import Mathlib.Data.Nat.Cast.Order.Ring
import Mathlib.Data.Prod.Lex

/-! # The order of numbers

Doubles that are defined compare as their ranks do: first the infinities and the signs, then the
exponents, then the mantissas, the other way round below zero. An undefined number compares with
none. So less than and at most behave as in an order wherever they hold. -/

namespace Landform

open Float.Model
open UnpackedFloat (Sign)

/-! ## Ranks -/

/-- The place of a number among all numbers. -/
def rank : UnpackedFloat → ℤ ×ₗ ℤ ×ₗ ℤ
  | .infinity .negative => toLex (-2, toLex (0, 0))
  | .finite .negative m q _ => toLex (-1, toLex (-q, -(m : ℤ)))
  | .zero _ | .notANumber => toLex (0, toLex (0, 0))
  | .finite .positive m q _ => toLex (1, toLex (q, (m : ℤ)))
  | .infinity .positive => toLex (2, toLex (0, 0))

theorem compare_cast (m m' : ℕ) : compare (m : ℤ) m' = compare m m' := by
  rw [← cmp_eq_compare, ← cmp_eq_compare]
  exact (Nat.strictMono_cast (α := ℤ)).cmp_map_eq m m'

theorem compare_neg (a b : ℤ) : compare (-a) (-b) = (compare a b).swap := by
  have hanti : StrictAnti fun a : ℤ => -a := fun _ _ h => neg_lt_neg h
  rw [← cmp_eq_compare, ← cmp_eq_compare, cmp_swap]
  exact hanti.cmp_map_eq a b

/-- Numbers that are defined compare as their ranks do. -/
theorem compare_eq_rank {u v : UnpackedFloat} (hu : u.isNaN = false) (hv : v.isNaN = false) :
    u.compare v = some (compare (rank u) (rank v)) := by
  cases u with
  | notANumber => cases hu
  | infinity s =>
    cases v with
    | notANumber => cases hv
    | infinity t | finite t => cases s <;> cases t <;> rfl
    | zero t => cases s <;> rfl
  | zero s =>
    cases v with
    | notANumber => cases hv
    | infinity t | finite t => cases t <;> rfl
    | zero t => rfl
  | finite s m q hpos =>
    cases v with
    | notANumber => cases hv
    | infinity t => cases s <;> cases t <;> rfl
    | zero t => cases s <;> rfl
    | finite t m' q' hpos' =>
      -- with equal signs the exponents and the mantissas decide
      cases s <;> cases t
      case negative.positive | positive.negative => rfl
      case positive.positive =>
        simp [UnpackedFloat.compare, rank, Prod.Lex.compare_def, compareLex, compareOn,
          compare_cast]
      case negative.negative =>
        simp [UnpackedFloat.compare, rank, Prod.Lex.compare_def, compareLex, compareOn,
          compare_cast, compare_neg, Ordering.swap_then]

theorem isNaN_of_compare {u v : UnpackedFloat} {o : Ordering} (h : u.compare v = some o) :
    u.isNaN = false ∧ v.isNaN = false := by
  cases u <;> cases v <;> first | exact ⟨rfl, rfl⟩ | (simp [UnpackedFloat.compare] at h)

/-! ## Doubles -/

variable {x y z : Float}

theorem lt_iff_rank : x < y ↔
    (x.isNaN = false ∧ y.isNaN = false) ∧ rank x.toModel.unpack < rank y.toModel.unpack := by
  have hcompare : x < y ↔ x.toModel.unpack.compare y.toModel.unpack = some .lt := by
    change decide ((_ == some Ordering.lt) = true) = true ↔ _
    rw [decide_eq_true_eq, beq_iff_eq]
  rw [hcompare]
  constructor
  · intro h
    have hnan := isNaN_of_compare h
    rw [compare_eq_rank hnan.1 hnan.2, Option.some_inj, compare_lt_iff_lt] at h
    exact ⟨hnan, h⟩
  · rintro ⟨⟨hx, hy⟩, hlt⟩
    rw [compare_eq_rank hx hy, compare_lt_iff_lt.mpr hlt]

theorem le_iff_rank : x ≤ y ↔
    (x.isNaN = false ∧ y.isNaN = false) ∧ rank x.toModel.unpack ≤ rank y.toModel.unpack := by
  have hcompare : x ≤ y ↔ ∃ o, x.toModel.unpack.compare y.toModel.unpack = some o ∧ o.isLE := by
    change decide ((Option.any _ _) = true) = true ↔ _
    rw [decide_eq_true_eq, Option.any_eq_true]
  have hle {a b : ℤ ×ₗ ℤ ×ₗ ℤ} : (compare a b).isLE = true ↔ a ≤ b :=
    Ordering.ne_gt_iff_isLE.symm.trans compare_le_iff_le
  rw [hcompare]
  constructor
  · rintro ⟨o, h, ho⟩
    have hnan := isNaN_of_compare h
    rw [compare_eq_rank hnan.1 hnan.2, Option.some_inj] at h
    exact ⟨hnan, hle.mp (h ▸ ho)⟩
  · rintro ⟨⟨hx, hy⟩, h⟩
    exact ⟨_, compare_eq_rank hx hy, hle.mpr h⟩

/-! ## Ordered scalars -/

/-- Scalars that are ordered as far as they are defined. -/
class Scalar.Ordered (α : Type) [Scalar α] : Prop where
  lt_of_le_of_lt {a b c : α} : a ≤ b → b < c → a < c
  lt_asymm {a b : α} : a < b → ¬b < a
  /-- Of a few parts more are no smaller a share. Doubles round a share, and up to six parts it can
  be looked up that this keeps the order. -/
  ratio_le_ratio {n m d : ℕ} : n ≤ m → m ≤ d → 0 < d → d ≤ 6 → (ratio n d : α) ≤ ratio m d

instance : Scalar.Ordered Float where
  lt_of_le_of_lt hle hlt := by
    obtain ⟨⟨ha, -⟩, hrank⟩ := le_iff_rank.mp hle
    obtain ⟨⟨-, hc⟩, hrank'⟩ := lt_iff_rank.mp hlt
    exact lt_iff_rank.mpr ⟨⟨ha, hc⟩, lt_of_le_of_lt hrank hrank'⟩
  lt_asymm h h' := lt_asymm (lt_iff_rank.mp h).2 (lt_iff_rank.mp h').2
  ratio_le_ratio := by
    have htable : ∀ d < 7, 0 < d → ∀ m < d + 1, ∀ n < m + 1,
        (Scalar.ratio n d : Float) ≤ Scalar.ratio m d := by decide +kernel
    intro n m d hn hm hd hd'
    exact htable d (by omega) hd m (by omega) n (by omega)

instance : Scalar.Ordered ℚ where
  lt_of_le_of_lt := lt_of_le_of_lt
  lt_asymm := lt_asymm
  ratio_le_ratio hn _ _ _ := div_le_div_of_nonneg_right (Nat.cast_le.mpr hn) (Nat.cast_nonneg _)

end Landform
