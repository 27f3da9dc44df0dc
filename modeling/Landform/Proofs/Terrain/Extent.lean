import Landform.Proofs.Noise.Bound
import Landform.Proofs.Number.Single
import Landform.Proofs.Table.Accepted
import Landform.Proofs.Terrain.Carving

/-! # How far densities go

Over doubles carving scales a depth by at most one in magnitude, and a ripple stays small. So a
density that is finite hardly goes further from zero than the height of its column does. Heights
have a ceiling, but the lower bound of a profile may be any finite number, and then a density can
lie beyond all numbers of single precision. -/

namespace Landform

open Double (value Within)

/-- The largest finite number of single precision. -/
def Double.singleMax : ℚ := 2 ^ 128 - 2 ^ 104

namespace Ground

variable {g : Ground Float} {x y z : Nat} {column : ColumnSample Float}

theorem within_caveFactor (g : Ground Float) (x y z : Nat) (height : Float) :
    Within 0 (g.caveFactor x y z height) := by
  have hone : Within 0 (Scalar.ofNat 1 : Float) := .ofNat (n := 1) (by norm_num) (by norm_num)
  cases hc : g.caves with
  | none =>
    rw [caveFactor_of_none hc]
    exact hone
  | some c =>
    by_cases hreach : c.Reaches y height
    · rw [caveFactor_of_reaches hc hreach]
      intro hfinite
      obtain ⟨-, hstep, hrounds⟩ := Double.sub_value hfinite
      obtain ⟨hlow, hhigh⟩ := Noise.smoothstep_value hstep
      refine hrounds.magnitude_le (onGrid_two_pow _) ?_
      change |value 1 - _| ≤ _
      rw [Double.value_one.2, pow_zero, abs_le]
      exact ⟨by linarith, by linarith⟩
    · rw [caveFactor_of_not_reaches hc hreach]
      exact hone

/-- Under an accepted table the ripple of a column is bounded. -/
theorem within_rippleAt {d : Dimension} {t : DimensionTable Float} (h : t.check d = .ok ())
    (key : ChunkKey) (x z : Nat) : Within 44 ((ofTable t key).rippleAt x z) := by
  obtain ⟨hfinite, hlt⟩ := (DimensionTable.check_eq_ok.mp h).2.2.2.2.2.1
  have hamplitude : Within 0 t.ripple.amplitude := fun _ => by
    obtain ⟨habs, hvalue⟩ := Double.value_abs hfinite
    have hless := (Double.lt_iff_value habs Double.value_one.1).mp hlt
    rw [hvalue, Double.value_one.2] at hless
    exact hless.le.trans_eq (pow_zero 2).symm
  exact (hamplitude.mul (Fractal.within_sample2 _ _ _ _ _)).mono (by norm_num)

/-! ## The density of a voxel -/

/-- Numbers of the grid a little beyond the largest one of single precision. -/
theorem onGrid_beyond {k : ℕ} (hk : k < 2 ^ 28) : OnGrid (Double.singleMax + k * 2 ^ 75) := by
  refine ⟨2 ^ 53 - 2 ^ 29 + k, 75, by omega, by norm_num, ?_⟩
  unfold Double.singleMax
  push_cast
  norm_num
  ring

/-- The depth of a voxel of a chunk in a column whose height is no less than the least number of
single precision. -/
theorem abs_depth_le {height : Float} (hlow : -Double.singleMax ≤ value height)
    (hhigh : value height ≤ 384) (hy : y ≤ 384) (h : (height - Float.ofNat y).isFinite = true) :
    |value (height - Float.ofNat y)| ≤ Double.singleMax + (1 : ℕ) * 2 ^ 75 := by
  obtain ⟨-, -, hrounds⟩ := Double.sub_value h
  have hcast : (y : ℚ) ≤ 384 := by exact_mod_cast hy
  rw [(Double.value_ofNat (n := y) (by omega)).2] at hrounds
  refine hrounds.magnitude_le (onGrid_beyond (by norm_num)) ?_
  unfold Double.singleMax at hlow ⊢
  norm_num [abs_le] at hlow ⊢
  constructor <;> linarith

/-- Neither what carving leaves of such a depth nor the ripple leads to what is narrowed to
infinity. -/
theorem abs_carved_lt {depth factor ripple : Float}
    (hdepth : depth.isFinite = true → |value depth| ≤ Double.singleMax + (1 : ℕ) * 2 ^ 75)
    (hfactor : Within 0 factor) (hripple : Within 44 ripple)
    (h : (depth * factor + ripple).isFinite = true) :
    |value (depth * factor + ripple)| < Double.singleLimit := by
  obtain ⟨hproductFinite, hrippleFinite, hsum⟩ := Double.add_value h
  obtain ⟨hdepthFinite, hfactorFinite, hproduct⟩ := Double.mul_value hproductFinite
  have hscaled : |value depth * value factor| ≤ Double.singleMax + (1 : ℕ) * 2 ^ 75 := by
    rw [abs_mul]
    have hshrunk := mul_le_of_le_one_right (abs_nonneg (value depth)) (hfactor hfactorFinite)
    exact hshrunk.trans (hdepth hdepthFinite)
  -- each rounding stays within the next number of the grid
  have hcarved := hproduct.magnitude_le (onGrid_beyond (by norm_num)) hscaled
  have hmoved : |value (depth * factor) + value ripple| ≤ Double.singleMax + (2 : ℕ) * 2 ^ 75 := by
    have hripple := hripple hrippleFinite
    refine (abs_add_le ..).trans ?_
    push_cast at hcarved ⊢
    linarith
  refine (hsum.magnitude_le (onGrid_beyond (by norm_num)) hmoved).trans_lt ?_
  unfold Double.singleMax Double.singleLimit
  norm_num

/-- A density is what carving leaves of a depth, moved by the ripple, unless it is cut off at zero
under the ceiling. -/
theorem density_eq_or_zero (g : Ground Float) (x y z : Nat) (column : ColumnSample Float) :
    g.density x y z column =
        (column.height - Float.ofNat y) * g.caveFactor x y z column.height + column.ripple ∨
      g.density x y z column = Float.ofNat 0 := by
  unfold density
  dsimp only
  split
  · split
    · exact .inl rfl
    · exact .inr rfl
  · exact .inl rfl

/-- In a column whose height is no less than the least number of single precision and no more than
the number of layers, a finite density is not too large for single precision. -/
theorem abs_density_lt (hlow : -Double.singleMax ≤ value column.height)
    (hhigh : value column.height ≤ 384) (hripple : Within 44 column.ripple) (hy : y ≤ 384)
    (h : (g.density x y z column).isFinite = true) :
    |value (g.density x y z column)| < Double.singleLimit := by
  rcases g.density_eq_or_zero x y z column with hd | hd
  · rw [hd] at h ⊢
    exact abs_carved_lt (abs_depth_le hlow hhigh hy) (g.within_caveFactor _ _ _ _) hripple h
  · rw [hd, (Double.value_ofNat (by norm_num)).2]
    norm_num [Double.singleLimit]

end Ground

end Landform
