import Landform.Proofs.Noise.Range

/-! # The slope of value noise

Neighbouring lattice points differ by two at most, so along each axis value noise rises and falls by
no more than three for each unit, within a cell and from cell to cell. Over exact numbers the values
at two points differ by at most three times the distance along the axes. -/

namespace Landform.Noise

open Landform.Lattice (at2 at3)

/-! ## Curves of bounded values -/

section Curves

variable {a b : ℤ → ℚ} {d : ℚ}

theorem abs_curve_le_one (h : ∀ n, |a n| ≤ 1) (x : ℚ) : |curve a x| ≤ 1 :=
  abs_le.mpr (curve_mem fun e => abs_le.mp (h (⌊x⌋ + e)))

theorem abs_curve_sub_le_three (h : ∀ n, |a n| ≤ 1) (x y : ℚ) :
    |curve a y - curve a x| ≤ 3 * |y - x| := by
  have hsteps (n : ℤ) : |a (n + 1) - a n| ≤ 2 :=
    (abs_sub _ _).trans (by linarith [h (n + 1), h n])
  have hslope := abs_curve_sub_le hsteps x y
  norm_num at hslope
  exact hslope

/-- Of two points on two curves, what the curves are apart adds to the slope of one. -/
theorem abs_curve_sub_curve_le_add (ha : ∀ n, |a n| ≤ 1) (h : ∀ n, |b n - a n| ≤ d) (x y : ℚ) :
    |curve b y - curve a x| ≤ d + 3 * |y - x| :=
  (abs_sub_le _ (curve a y) _).trans
    (add_le_add (abs_curve_sub_curve_le h) (abs_curve_sub_le_three ha x y))

end Curves

/-! ## Value noise -/

section Points

variable (seed : UInt64) {x y z x' y' z' : ℚ}

theorem abs_at2_le (i k : ℤ) : |at2 seed i k| ≤ 1 :=
  abs_le_one_of_mem (Lattice.signed_unit_mem _)

theorem abs_at3_le (i j k : ℤ) : |at3 seed i j k| ≤ 1 :=
  abs_le_one_of_mem (Lattice.signed_unit_mem _)

theorem abs_value2_sub_le (hx : |x| < 2 ^ 62) (hz : |z| < 2 ^ 62) (hx' : |x'| < 2 ^ 62)
    (hz' : |z'| < 2 ^ 62) :
    |value2 seed x' z' - value2 seed x z| ≤ 3 * (|x' - x| + |z' - z|) := by
  rw [value2_eq_curve seed hx hz, value2_eq_curve seed hx' hz', mul_add]
  have hrow (k i : ℤ) := abs_at2_le seed i k
  exact abs_curve_sub_curve_le_add (fun k => abs_curve_le_one (hrow k) x)
    (fun k => abs_curve_sub_le_three (hrow k) x x') z z'

theorem abs_value3_sub_le (hx : |x| < 2 ^ 62) (hy : |y| < 2 ^ 62) (hz : |z| < 2 ^ 62)
    (hx' : |x'| < 2 ^ 62) (hy' : |y'| < 2 ^ 62) (hz' : |z'| < 2 ^ 62) :
    |value3 seed x' y' z' - value3 seed x y z| ≤ 3 * (|x' - x| + |y' - y| + |z' - z|) := by
  rw [value3_eq_curve seed hx hy hz, value3_eq_curve seed hx' hy' hz']
  have hrow (j k i : ℤ) := abs_at3_le seed i j k
  have hlayer (j : ℤ) :
      |curve (fun k => curve (fun i => at3 seed i j k) x') z' -
        curve (fun k => curve (fun i => at3 seed i j k) x) z| ≤ 3 * |x' - x| + 3 * |z' - z| :=
    abs_curve_sub_curve_le_add (fun k => abs_curve_le_one (hrow j k) x)
      (fun k => abs_curve_sub_le_three (hrow j k) x x') z z'
  -- the layers are curves of curves, so a layer is bounded by its lattice points as well
  have hspace := abs_curve_sub_curve_le_add
    (fun j => abs_curve_le_one (fun k => abs_curve_le_one (hrow j k) x) z) hlayer y y'
  linarith

end Points

/-- Between any two points of the plane, and of space, value noise changes by no more than three
times their distance along the axes, whether they lie in one cell or in cells far apart. -/
theorem value_noise_slope (seed : UInt64) :
    (∀ x z x' z' : ℚ, (∀ v ∈ [x, z, x', z'], |v| < 2 ^ 62) →
      |value2 seed x z - value2 seed x' z'| ≤ 3 * (|x - x'| + |z - z'|)) ∧
    ∀ x y z x' y' z' : ℚ, (∀ v ∈ [x, y, z, x', y', z'], |v| < 2 ^ 62) →
      |value3 seed x y z - value3 seed x' y' z'| ≤ 3 * (|x - x'| + |y - y'| + |z - z'|) := by
  constructor
  · intro x z x' z' h
    exact abs_value2_sub_le seed (h _ (by simp)) (h _ (by simp)) (h _ (by simp)) (h _ (by simp))
  · intro x y z x' y' z' h
    exact abs_value3_sub_le seed (h _ (by simp)) (h _ (by simp)) (h _ (by simp)) (h _ (by simp))
      (h _ (by simp)) (h _ (by simp))

/-- On both sides of a face between two cells, and of an edge between four. -/
theorem value_noise_slope_across :
    ((∀ v ∈ [(-1 / 1000 : ℚ), 1 / 2, 1 / 1000, 1 / 2], |v| < 2 ^ 62) ∧
        ∀ v ∈ [(999 / 1000 : ℚ), -1 / 1000, 5 / 4, 1001 / 1000, 1 / 1000, 5 / 4], |v| < 2 ^ 62) ∧
      |value2 9 (-1 / 1000 : ℚ) (1 / 2) - value2 9 (1 / 1000) (1 / 2)| ≤ 3 / 500 ∧
      |value3 9 (999 / 1000 : ℚ) (-1 / 1000) (5 / 4) -
        value3 9 (1001 / 1000) (1 / 1000) (5 / 4)| ≤ 3 / 250 := by
  have hface : ∀ v ∈ [(-1 / 1000 : ℚ), 1 / 2, 1 / 1000, 1 / 2], |v| < 2 ^ 62 := by decide +kernel
  have hedge : ∀ v ∈ [(999 / 1000 : ℚ), -1 / 1000, 5 / 4, 1001 / 1000, 1 / 1000, 5 / 4],
      |v| < 2 ^ 62 := by decide +kernel
  exact ⟨⟨hface, hedge⟩, ((value_noise_slope 9).1 _ _ _ _ hface).trans (by decide +kernel),
    ((value_noise_slope 9).2 _ _ _ _ _ _ hedge).trans (by decide +kernel)⟩

end Landform.Noise
