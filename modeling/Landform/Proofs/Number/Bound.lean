import Landform.Number.Scalar
import Landform.Proofs.Number.Whole

/-! # Bounds of doubles

An operation whose result is finite had finite operands, and a bound of its exact result that is on
the grid is a bound of the result. So bounds go through a formula operation by operation. They say
nothing of a result that is not finite. -/

namespace Landform

theorem onGrid_two_pow (k : ℕ) : OnGrid (2 ^ k) :=
  ⟨1, k, by norm_num, by omega, by rw [Int.cast_one, one_mul, zpow_natCast]⟩

namespace Double

variable {x y : Float} {j k : ℕ}

theorem value_ofNat {n : ℕ} (hlt : n < 2 ^ 53) :
    (Float.ofNat n).isFinite = true ∧ value (Float.ofNat n) = n :=
  value_ofInt (a := (n : ℤ)) hlt

theorem value_of_not_isFinite (h : ¬ x.isFinite = true) : value x = 0 := by
  have hunpack : ¬ x.toModel.unpack.isFinite = true := h
  unfold value
  cases hx : x.toModel.unpack with
  | infinity s => rfl
  | notANumber => rfl
  | zero s => exact absurd (by rw [hx]; rfl) hunpack
  | finite s m q hpos => exact absurd (by rw [hx]; rfl) hunpack

/-! ## Powers of two -/

/-- If the double is finite, its magnitude is at most a power of two. -/
def Within (k : ℕ) (x : Float) : Prop := x.isFinite = true → |value x| ≤ 2 ^ k

namespace Within

theorem mono (h : Within j x) (hjk : j ≤ k) : Within k x := fun hx =>
  (h hx).trans (pow_le_pow_right₀ one_le_two hjk)

theorem add (hx : Within k x) (hy : Within k y) : Within (k + 1) (x + y) := fun h => by
  obtain ⟨hxFinite, hyFinite, hrounds⟩ := add_value h
  refine hrounds.magnitude_le (onGrid_two_pow _) ?_
  calc |value x + value y| ≤ |value x| + |value y| := abs_add_le ..
    _ ≤ 2 ^ k + 2 ^ k := add_le_add (hx hxFinite) (hy hyFinite)
    _ = 2 ^ (k + 1) := by ring

theorem sub (hx : Within k x) (hy : Within k y) : Within (k + 1) (x - y) := fun h => by
  obtain ⟨hxFinite, hyFinite, hrounds⟩ := sub_value h
  refine hrounds.magnitude_le (onGrid_two_pow _) ?_
  calc |value x - value y| ≤ |value x| + |value y| := abs_sub ..
    _ ≤ 2 ^ k + 2 ^ k := add_le_add (hx hxFinite) (hy hyFinite)
    _ = 2 ^ (k + 1) := by ring

theorem mul (hx : Within j x) (hy : Within k y) : Within (j + k) (x * y) := fun h => by
  obtain ⟨hxFinite, hyFinite, hrounds⟩ := mul_value h
  refine hrounds.magnitude_le (onGrid_two_pow _) ?_
  rw [abs_mul, pow_add]
  exact mul_le_mul (hx hxFinite) (hy hyFinite) (abs_nonneg _) (by positivity)

theorem ofNat {n : ℕ} (hlt : n < 2 ^ 53) (hle : n ≤ 2 ^ k) : Within k (Float.ofNat n) := fun _ => by
  rw [(value_ofNat hlt).2, Nat.abs_cast]
  exact_mod_cast hle

end Within

/-! ## Steps of formulas -/

/-- What is left of a number without its whole part is at most one. -/
theorem within_sub_floor (x : Float) : Within 0 (x - Double.floor x) := fun h => by
  obtain ⟨hx, -, hrounds⟩ := sub_value h
  rw [(value_floor hx).2] at hrounds
  refine hrounds.magnitude_le (onGrid_two_pow _) ?_
  rw [Int.self_sub_floor, abs_of_nonneg (Int.fract_nonneg _), pow_zero]
  exact (Int.fract_lt_one _).le

/-- What is held between two bounds and is finite lies between them. -/
theorem value_clamp {lo hi v : Float} (hlo : lo.isFinite = true) (hhi : hi.isFinite = true)
    (hle : lo ≤ hi) (h : (Scalar.clamp lo hi v).isFinite = true) :
    value lo ≤ value (Scalar.clamp lo hi v) ∧ value (Scalar.clamp lo hi v) ≤ value hi := by
  have hvalue := (le_iff_value hlo hhi).mp hle
  unfold Scalar.clamp at h ⊢
  dsimp only at h ⊢
  -- what is not held is finite itself, and so its order is that of the values
  by_cases hlow : v < lo
  · rw [if_pos hlow, if_neg (mt (lt_iff_value hhi hlo).mp (not_lt.mpr hvalue))]
    exact ⟨le_rfl, hvalue⟩
  · rw [if_neg hlow] at h ⊢
    by_cases hhigh : hi < v
    · rw [if_pos hhigh]
      exact ⟨hvalue, le_rfl⟩
    · rw [if_neg hhigh] at h ⊢
      rw [lt_iff_value h hlo, not_lt] at hlow
      rw [lt_iff_value hhi h, not_lt] at hhigh
      exact ⟨hlow, hhigh⟩

end Double

end Landform
