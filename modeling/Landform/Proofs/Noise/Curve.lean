import Landform.Proofs.Noise.Easing
import Mathlib.Algebra.Order.Floor.Ring
import Mathlib.Data.Rat.Floor
import Mathlib.Tactic.NormNum

/-! # Curves through whole points

Along one axis value noise is a curve through the values at the whole numbers, eased from each to
the next. Between two whole numbers it stays between their values. The pieces on both sides of a
whole number meet in its value, so the curve has no jumps: over any number of pieces it rises and
falls at most one and a half times as fast as the values themselves. -/

namespace Landform.Noise

variable {lo hi d x y : ℚ}

/-! ## Blends -/

theorem lerp_eq (a b t : ℚ) : lerp a b t = a + (b - a) * t := rfl

/-- A blend stays in every range that both its ends are in. -/
theorem lerp_mem {a b t : ℚ} (ha : a ∈ Set.Icc lo hi) (hb : b ∈ Set.Icc lo hi)
    (ht : t ∈ Set.Icc 0 1) : lerp a b t ∈ Set.Icc lo hi := by
  have hweights : lerp a b t = (1 - t) * a + t * b := by
    rw [lerp_eq]
    ring
  have hrest : 0 ≤ 1 - t := sub_nonneg.mpr ht.2
  rw [hweights]
  constructor
  · calc lo = (1 - t) * lo + t * lo := by ring
      _ ≤ (1 - t) * a + t * b :=
          add_le_add (mul_le_mul_of_nonneg_left ha.1 hrest) (mul_le_mul_of_nonneg_left hb.1 ht.1)
  · calc (1 - t) * a + t * b
        _ ≤ (1 - t) * hi + t * hi :=
          add_le_add (mul_le_mul_of_nonneg_left ha.2 hrest) (mul_le_mul_of_nonneg_left hb.2 ht.1)
        _ = hi := by ring

/-- How far a number is into its cell. -/
theorem sub_floor_mem (x : ℚ) : x - ⌊x⌋ ∈ Set.Icc (0 : ℚ) 1 :=
  ⟨Int.fract_nonneg x, (Int.fract_lt_one x).le⟩

theorem ease_mem {t : ℚ} (ht : t ∈ Set.Icc 0 1) : ease t ∈ Set.Icc 0 1 :=
  ⟨ease_nonneg ht.2, ease_le_one ht.1⟩

/-! ## Curves -/

/-- The curve through the values at the whole numbers. -/
def curve (a : ℤ → ℚ) (x : ℚ) : ℚ := lerp (a ⌊x⌋) (a (⌊x⌋ + 1)) (ease (x - ⌊x⌋))

variable {a b : ℤ → ℚ}

/-- A curve stays in every range that the two values around a point are in. -/
theorem curve_mem (h : ∀ e : Fin 2, a (⌊x⌋ + e) ∈ Set.Icc lo hi) : curve a x ∈ Set.Icc lo hi := by
  have hlow : a ⌊x⌋ ∈ Set.Icc lo hi := add_zero ⌊x⌋ ▸ h 0
  exact lerp_mem hlow (h 1) (ease_mem (sub_floor_mem x))

theorem curve_intCast (a : ℤ → ℚ) (n : ℤ) : curve a n = a n := by
  rw [curve, Int.floor_intCast, sub_self, lerp_eq, ease_eq]
  ring

/-- The piece of a curve above a cell reaches up to both ends of the cell. -/
theorem curve_eq_lerp {n : ℤ} (h : x - n ∈ Set.Icc 0 1) :
    curve a x = lerp (a n) (a (n + 1)) (ease (x - n)) := by
  rcases h.2.eq_or_lt with hend | hinside
  · obtain rfl : x = (n + 1 : ℤ) := by
      push_cast
      linarith
    rw [curve_intCast, hend, lerp_eq, ease_eq]
    ring
  · have hfloor : ⌊x⌋ = n := Int.floor_eq_iff.mpr ⟨by linarith [h.1], by linarith⟩
    rw [curve, hfloor]

/-- Two curves are no further apart than their values. -/
theorem abs_curve_sub_curve_le (h : ∀ n, |a n - b n| ≤ d) : |curve a x - curve b x| ≤ d := by
  have hdifference : curve a x - curve b x = curve (fun n => a n - b n) x := by
    unfold curve
    rw [lerp_eq, lerp_eq, lerp_eq]
    ring
  rw [hdifference]
  exact abs_le.mpr (curve_mem fun e => abs_le.mp (h (⌊x⌋ + e)))

/-! ## Slopes -/

theorem abs_curve_sub_le_of_cell {n : ℤ} (hx : x - n ∈ Set.Icc 0 1) (hy : y - n ∈ Set.Icc 0 1)
    (hxy : x ≤ y) (h : |a (n + 1) - a n| ≤ d) :
    |curve a y - curve a x| ≤ 3 / 2 * d * (y - x) := by
  have hlerp : curve a y - curve a x =
      (a (n + 1) - a n) * (ease (y - n) - ease (x - n)) := by
    rw [curve_eq_lerp hx, curve_eq_lerp hy, lerp_eq, lerp_eq]
    ring
  have hslope := abs_ease_sub_le hx hy
  rw [sub_sub_sub_cancel_right, abs_of_nonneg (sub_nonneg.mpr hxy)] at hslope
  rw [hlerp, abs_mul]
  calc |a (n + 1) - a n| * |ease (y - n) - ease (x - n)|
      _ ≤ d * (3 / 2 * (y - x)) := mul_le_mul h hslope (abs_nonneg _) ((abs_nonneg _).trans h)
      _ = 3 / 2 * d * (y - x) := by ring

/-- Over several whole numbers the values change by no more than one step for each. -/
theorem abs_sub_le_of_steps (h : ∀ n, |a (n + 1) - a n| ≤ d) {m n : ℤ} (hmn : m ≤ n) :
    |a n - a m| ≤ d * (n - m) := by
  induction n, hmn using Int.leInduction with
  | base => rw [sub_self, sub_self, abs_zero, mul_zero]
  | succ n _ ih =>
    calc |a (n + 1) - a m|
        _ ≤ |a (n + 1) - a n| + |a n - a m| := abs_sub_le _ _ _
        _ ≤ d + d * (n - m) := add_le_add (h n) ih
        _ = d * ((n + 1 : ℤ) - m) := by
          push_cast
          ring

/-- A curve changes at most one and a half times as fast as its values. -/
theorem abs_curve_sub_le (h : ∀ n, |a (n + 1) - a n| ≤ d) (x y : ℚ) :
    |curve a y - curve a x| ≤ 3 / 2 * d * |y - x| := by
  wlog hxy : x ≤ y generalizing x y
  · rw [abs_sub_comm, abs_sub_comm y]
    exact this y x (le_of_not_ge hxy)
  have hx := sub_floor_mem x
  have hy := sub_floor_mem y
  rw [abs_of_nonneg (sub_nonneg.mpr hxy)]
  rcases (Int.floor_mono hxy).eq_or_lt with hcell | hcells
  · rw [← hcell] at hy
    exact abs_curve_sub_le_of_cell hx hy hxy (h _)
  · -- up to the end of the first cell, over the cells between, and into the last cell
    obtain ⟨n, hn⟩ : ∃ n : ℤ, n = ⌊x⌋ + 1 := ⟨_, rfl⟩
    have hnext : (n : ℚ) - ⌊x⌋ = 1 := by
      rw [hn]
      push_cast
      ring
    have hcells : (n : ℚ) ≤ ⌊y⌋ := Int.cast_le.mpr (hn.trans_le hcells)
    have hd : 0 ≤ d := (abs_nonneg _).trans (h 0)
    have hfirst : |a n - curve a x| ≤ 3 / 2 * d * (n - x) := by
      rw [← curve_intCast a n]
      have hend : (n : ℚ) - ⌊x⌋ ∈ Set.Icc 0 1 := ⟨by linarith, hnext.le⟩
      exact abs_curve_sub_le_of_cell hx hend (by linarith [hx.2]) (h _)
    have hmiddle : |a ⌊y⌋ - a n| ≤ 3 / 2 * d * (⌊y⌋ - n) := by
      refine (abs_sub_le_of_steps h (by exact_mod_cast hcells)).trans ?_
      exact mul_le_mul_of_nonneg_right (by linarith) (sub_nonneg.mpr hcells)
    have hlast : |curve a y - a ⌊y⌋| ≤ 3 / 2 * d * (y - ⌊y⌋) := by
      rw [← curve_intCast a ⌊y⌋]
      have hstart : (⌊y⌋ : ℚ) - ⌊y⌋ ∈ Set.Icc 0 1 := ⟨by linarith, by linarith⟩
      exact abs_curve_sub_le_of_cell hstart hy (Int.floor_le y) (h _)
    calc |curve a y - curve a x|
        _ ≤ |curve a y - a ⌊y⌋| + (|a ⌊y⌋ - a n| + |a n - curve a x|) :=
          (abs_sub_le _ _ _).trans (by gcongr; exact abs_sub_le _ _ _)
        _ ≤ 3 / 2 * d * (y - ⌊y⌋) + (3 / 2 * d * (⌊y⌋ - n) + 3 / 2 * d * (n - x)) :=
          add_le_add hlast (add_le_add hmiddle hfirst)
        _ = 3 / 2 * d * (y - x) := by ring

end Landform.Noise
