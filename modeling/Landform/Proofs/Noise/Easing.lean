import Landform.Noise.Value
import Mathlib.Algebra.Order.Field.Basic
import Mathlib.Algebra.Order.Ring.Rat
import Mathlib.Tactic.Linarith
import Mathlib.Tactic.Ring

/-! # Easing

Over exact numbers easing takes the numbers from zero to one to numbers from zero to one, at a
slope of one and a half at most. So a step between two edges lies there as well; it has not begun
up to the first edge and is complete from the second one on. -/

namespace Landform

theorem Scalar.abs_eq (v : ℚ) : abs v = |v| := by
  rcases le_total 0 v with h | h
  · exact (Rat.abs_of_nonneg h).trans (abs_of_nonneg h).symm
  · exact (Rat.abs_of_nonpos h).trans (abs_of_nonpos h).symm

theorem Scalar.clamp_eq (lo hi v : ℚ) : clamp lo hi v = min (max v lo) hi := by
  have hlo : (if v < lo then lo else v) = max v lo := by
    rw [max_def]
    split
    · rw [if_pos (le_of_lt ‹_›)]
    · rename_i h
      split
      · exact le_antisymm (not_lt.mp h) ‹_› ▸ rfl
      · rfl
  unfold clamp
  rw [hlo, min_comm, min_def]
  dsimp only
  split
  · rw [if_pos (le_of_lt ‹_›)]
  · rename_i h
    split
    · exact le_antisymm (not_lt.mp h) ‹_›
    · rfl

namespace Noise

variable {t edge₀ edge₁ x : ℚ}

theorem ease_eq (t : ℚ) : ease t = t * t * (3 - 2 * t) := rfl

theorem ease_nonneg (h : t ≤ 1) : 0 ≤ ease t := by
  rw [ease_eq]
  exact mul_nonneg (mul_self_nonneg t) (by linarith)

theorem ease_le_one (h : 0 ≤ t) : ease t ≤ 1 := by
  have hgap : 1 - ease t = (1 - t) * (1 - t) * (1 + 2 * t) := by
    rw [ease_eq]
    ring
  have hpos : 0 ≤ (1 - t) * (1 - t) * (1 + 2 * t) :=
    mul_nonneg (mul_self_nonneg _) (by linarith)
  linarith

/-- Easing is nowhere steeper than in the middle. -/
theorem abs_ease_sub_le {s : ℚ} (hs : s ∈ Set.Icc 0 1) (ht : t ∈ Set.Icc 0 1) :
    |ease t - ease s| ≤ 3 / 2 * |t - s| := by
  have hproduct : ease t - ease s = (s * (3 - 2 * s - t) + t * (3 - 2 * t - s)) * (t - s) := by
    rw [ease_eq, ease_eq]
    ring
  have hlow : 0 ≤ s * (3 - 2 * s - t) + t * (3 - 2 * t - s) := by
    have hs' : 0 ≤ 3 - 2 * s - t := by linarith [hs.2, ht.2]
    have ht' : 0 ≤ 3 - 2 * t - s := by linarith [hs.2, ht.2]
    exact add_nonneg (mul_nonneg hs.1 hs') (mul_nonneg ht.1 ht')
  have hgap : 3 / 2 - (s * (3 - 2 * s - t) + t * (3 - 2 * t - s)) =
      3 / 2 * (1 - s - t) ^ 2 + 1 / 2 * (s - t) ^ 2 := by
    ring
  have hhigh : s * (3 - 2 * s - t) + t * (3 - 2 * t - s) ≤ 3 / 2 := by
    have hsquares : 0 ≤ 3 / 2 * (1 - s - t) ^ 2 + 1 / 2 * (s - t) ^ 2 := by positivity
    linarith
  rw [hproduct, abs_mul, abs_of_nonneg hlow]
  exact mul_le_mul_of_nonneg_right hhigh (abs_nonneg _)

theorem smoothstep_eq (edge₀ edge₁ x : ℚ) :
    smoothstep edge₀ edge₁ x = ease (min (max ((x - edge₀) / (edge₁ - edge₀)) 0) 1) :=
  congrArg ease (Scalar.clamp_eq ..)

theorem smoothstep_nonneg : 0 ≤ smoothstep edge₀ edge₁ x := by
  rw [smoothstep_eq]
  exact ease_nonneg (min_le_right _ _)

theorem smoothstep_le_one : smoothstep edge₀ edge₁ x ≤ 1 := by
  rw [smoothstep_eq]
  exact ease_le_one (le_min (le_max_right _ _) zero_le_one)

theorem smoothstep_of_le (h : edge₀ < edge₁) (hx : x ≤ edge₀) : smoothstep edge₀ edge₁ x = 0 := by
  have hquotient : (x - edge₀) / (edge₁ - edge₀) ≤ 0 :=
    div_nonpos_of_nonpos_of_nonneg (by linarith) (by linarith)
  rw [smoothstep_eq, max_eq_right hquotient, min_eq_left zero_le_one, ease_eq]
  ring

theorem smoothstep_of_ge (h : edge₀ < edge₁) (hx : edge₁ ≤ x) : smoothstep edge₀ edge₁ x = 1 := by
  have hquotient : 1 ≤ (x - edge₀) / (edge₁ - edge₀) := by
    rw [one_le_div (by linarith)]
    linarith
  rw [smoothstep_eq, max_eq_left (zero_le_one.trans hquotient), min_eq_right hquotient, ease_eq]
  ring

end Noise

end Landform
