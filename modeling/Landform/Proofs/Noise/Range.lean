import Landform.Noise.Fractal
import Landform.Proofs.Noise.Curve
import Mathlib.Data.Finset.Lattice.Fold
import Mathlib.Data.Fintype.Prod
import Mathlib.Tactic.Positivity

/-! # The range of noise

Over exact numbers the value of a lattice point is at least minus one and less than one. Value
noise blends the lattice points around a point, axis by axis, so it stays between the least and the
greatest of their values, and at a lattice point it is the value there. A sum of octaves is divided
by what its amplitudes come to, so it stays between minus one and one, and ridges stay between zero
and one. -/

namespace Landform

/-! ## Lattice points -/

namespace Lattice

theorem unit_mem (bits : UInt64) : (unit bits : ℚ) ∈ Set.Icc 0 (1 - 1 / 2 ^ 53) := by
  have hunit : (unit bits : ℚ) = (bits >>> 11).toNat / 2 ^ 53 := by
    change ((bits >>> 11).toNat : ℚ) * ((1 : ℕ) / (Nat.pow 2 53 : ℕ)) = _
    norm_num
    ring
  have htop : ((bits >>> 11).toNat : ℚ) + 1 ≤ 2 ^ 53 := by exact_mod_cast toNat_top_lt bits
  rw [hunit]
  refine ⟨by positivity, ?_⟩
  rw [div_le_iff₀ (by positivity)]
  linarith

/-- The greatest value of a lattice point. -/
def top : ℚ := 1 - 1 / 2 ^ 52

theorem signed_unit_mem (bits : UInt64) : (signed (unit bits) : ℚ) ∈ Set.Icc (-1) top := by
  have hsigned : (signed (unit bits) : ℚ) = unit bits * 2 - 1 := rfl
  have hunit := unit_mem bits
  rw [hsigned, top]
  constructor <;> linarith [hunit.1, hunit.2]

/-- The value at a point of the plane, by whole coordinates. -/
def at2 (seed : UInt64) (i k : ℤ) : ℚ := value2 seed (Int64.ofInt i) (Int64.ofInt k)

/-- The value at a point of space, by whole coordinates. -/
def at3 (seed : UInt64) (i j k : ℤ) : ℚ :=
  value3 seed (Int64.ofInt i) (Int64.ofInt j) (Int64.ofInt k)

end Lattice

namespace Noise

open Landform.Lattice (at2 at3 top)

/-! ## Value noise as curves -/

section Curves

variable {x y z : ℚ}

/-- The lattice has a point for every whole number of this magnitude. -/
theorem toCell_floor (h : |x| < 2 ^ 62) :
    Scalar.toCell (Scalar.floor x) = Int64.ofInt ⌊x⌋ := by
  obtain ⟨hlow, hhigh⟩ := abs_lt.mp h
  have hleast : -2 ^ 62 ≤ ⌊x⌋ := Int.le_floor.mpr (by push_cast; linarith)
  have hgreatest : ⌊x⌋ < 2 ^ 62 := Int.floor_lt.mpr (by push_cast; linarith)
  have hmin : Int64.minValue.toInt = -2 ^ 63 := rfl
  have hmax : Int64.maxValue.toInt = 2 ^ 63 - 1 := rfl
  change Int64.ofInt (max Int64.minValue.toInt (min Int64.maxValue.toInt ⌊(⌊x⌋ : ℚ)⌋)) = _
  -- the conversion saturates only beyond 64 bits
  rw [Int.floor_intCast, hmin, hmax, min_eq_right (by omega), max_eq_right (by omega)]

theorem ofInt_succ (n : ℤ) : Int64.ofInt n + 1 = Int64.ofInt (n + 1) :=
  (Int64.ofInt_add n 1).symm

/-- Value noise is a curve along z through curves along x. -/
theorem value2_eq_curve (seed : UInt64) (hx : |x| < 2 ^ 62) (hz : |z| < 2 ^ 62) :
    value2 seed x z = curve (fun k => curve (fun i => at2 seed i k) x) z := by
  refine (if_pos rfl).trans ?_
  simp only [toCell_floor hx, toCell_floor hz, ofInt_succ]
  rfl

/-- In space it is a curve along y through such curves. -/
theorem value3_eq_curve (seed : UInt64) (hx : |x| < 2 ^ 62) (hy : |y| < 2 ^ 62)
    (hz : |z| < 2 ^ 62) :
    value3 seed x y z =
      curve (fun j => curve (fun k => curve (fun i => at3 seed i j k) x) z) y := by
  refine (if_pos rfl).trans ?_
  simp only [toCell_floor hx, toCell_floor hy, toCell_floor hz, ofInt_succ]
  rfl

end Curves

/-! ## Between the corners -/

section Corners

open Finset

/-- From the least to the greatest of some values. -/
def hull {ι : Type} [Fintype ι] [Nonempty ι] (v : ι → ℚ) : Set ℚ :=
  Set.Icc (univ.inf' univ_nonempty v) (univ.sup' univ_nonempty v)

theorem mem_hull {ι : Type} [Fintype ι] [Nonempty ι] (v : ι → ℚ) (c : ι) : v c ∈ hull v :=
  ⟨inf'_le v (mem_univ c), le_sup' v (mem_univ c)⟩

variable (seed : UInt64) {x y z : ℚ}

/-- The values of the four lattice points around a point of the plane. -/
def corner2 (x z : ℚ) (c : Fin 2 × Fin 2) : ℚ := at2 seed (⌊x⌋ + c.1) (⌊z⌋ + c.2)

/-- The values of the eight lattice points around a point of space. -/
def corner3 (x y z : ℚ) (c : Fin 2 × Fin 2 × Fin 2) : ℚ :=
  at3 seed (⌊x⌋ + c.1) (⌊y⌋ + c.2.1) (⌊z⌋ + c.2.2)

theorem value2_mem_hull (hx : |x| < 2 ^ 62) (hz : |z| < 2 ^ 62) :
    value2 seed x z ∈ hull (corner2 seed x z) := by
  rw [value2_eq_curve seed hx hz]
  exact curve_mem fun k => curve_mem fun i => mem_hull (corner2 seed x z) (i, k)

theorem value3_mem_hull (hx : |x| < 2 ^ 62) (hy : |y| < 2 ^ 62) (hz : |z| < 2 ^ 62) :
    value3 seed x y z ∈ hull (corner3 seed x y z) := by
  rw [value3_eq_curve seed hx hy hz]
  exact curve_mem fun j => curve_mem fun k => curve_mem fun i =>
    mem_hull (corner3 seed x y z) (i, j, k)

theorem value2_intCast {i k : ℤ} (hi : |(i : ℚ)| < 2 ^ 62) (hk : |(k : ℚ)| < 2 ^ 62) :
    value2 seed (i : ℚ) k = at2 seed i k := by
  rw [value2_eq_curve seed hi hk, curve_intCast, curve_intCast]

theorem value3_intCast {i j k : ℤ} (hi : |(i : ℚ)| < 2 ^ 62) (hj : |(j : ℚ)| < 2 ^ 62)
    (hk : |(k : ℚ)| < 2 ^ 62) : value3 seed (i : ℚ) j k = at3 seed i j k := by
  rw [value3_eq_curve seed hi hj hk, curve_intCast, curve_intCast, curve_intCast]

end Corners

/-! ## Any point

Beyond the lattice a point counts to its last cell, which leaves the range as it is. -/

section Anywhere

theorem blend2_mem {lo hi ll hl lh hh tx tz : ℚ} (hll : ll ∈ Set.Icc lo hi)
    (hhl : hl ∈ Set.Icc lo hi) (hlh : lh ∈ Set.Icc lo hi) (hhh : hh ∈ Set.Icc lo hi)
    (htx : tx ∈ Set.Icc 0 1) (htz : tz ∈ Set.Icc 0 1) :
    blend2 ll hl lh hh tx tz ∈ Set.Icc lo hi :=
  lerp_mem (lerp_mem hll hhl htx) (lerp_mem hlh hhh htx) htz

variable (seed : UInt64) (x y z : ℚ)

theorem value2_mem : value2 seed x z ∈ Set.Icc (-1) top := by
  have hx := ease_mem (sub_floor_mem x)
  have hz := ease_mem (sub_floor_mem z)
  have hcorner (i k : Int64) := Lattice.signed_unit_mem (Lattice.bits2 seed i k)
  exact Set.mem_of_eq_of_mem (if_pos rfl)
    (blend2_mem (hcorner _ _) (hcorner _ _) (hcorner _ _) (hcorner _ _) hx hz)

theorem value3_mem : value3 seed x y z ∈ Set.Icc (-1) top := by
  have hx := ease_mem (sub_floor_mem x)
  have hy := ease_mem (sub_floor_mem y)
  have hz := ease_mem (sub_floor_mem z)
  have hcorner (i j k : Int64) := Lattice.signed_unit_mem (Lattice.bits3 seed i j k)
  have hlayer (i j k : Int64) := blend2_mem (hcorner i j k) (hcorner (i + 1) j k)
    (hcorner i j (k + 1)) (hcorner (i + 1) j (k + 1)) hx hz
  exact Set.mem_of_eq_of_mem (if_pos rfl) (lerp_mem (hlayer _ _ _) (hlayer _ _ _) hy)

/-- The greatest value is less than one. -/
theorem mem_Ico_of_mem {v : ℚ} (h : v ∈ Set.Icc (-1) top) : v ∈ Set.Ico (-1) 1 :=
  ⟨h.1, h.2.trans_lt (by norm_num [top])⟩

theorem abs_le_one_of_mem {v : ℚ} (h : v ∈ Set.Icc (-1) top) : |v| ≤ 1 :=
  abs_le.mpr ⟨h.1, (mem_Ico_of_mem h).2.le⟩

theorem ridge_mem {v : ℚ} (h : |v| ≤ 1) : ridge v ∈ Set.Icc 0 1 := by
  have hridge : ridge v = 1 - |v| := congrArg (1 - ·) (Scalar.abs_eq v)
  rw [hridge]
  exact ⟨sub_nonneg.mpr h, sub_le_self 1 (abs_nonneg v)⟩

end Anywhere

end Noise

/-! ## Octaves -/

namespace Fractal

/-- The sum so far is no larger than what its amplitudes come to, and the next amplitude is not
negative. -/
structure Weighted (amplitude total amplitudes : ℚ) : Prop where
  nonneg : 0 ≤ amplitude
  bound : |total| ≤ amplitudes

namespace Weighted

variable {amplitude total amplitudes : ℚ}

theorem zero : Weighted 1 0 0 := ⟨zero_le_one, abs_zero.le⟩

/-- One more octave keeps the sum within its amplitudes. -/
theorem step (h : Weighted amplitude total amplitudes) {octave persistence : ℚ}
    (hoctave : |octave| ≤ 1) (hpersistence : 0 ≤ persistence) :
    Weighted (amplitude * persistence) (total + octave * amplitude) (amplitudes + amplitude) := by
  refine ⟨mul_nonneg h.nonneg hpersistence, (abs_add_le _ _).trans (add_le_add h.bound ?_)⟩
  rw [abs_mul, abs_of_nonneg h.nonneg]
  exact mul_le_of_le_one_left h.nonneg hoctave

theorem abs_normalize_le (h : Weighted amplitude total amplitudes) :
    |normalize total amplitudes| ≤ 1 := by
  unfold normalize
  split
  · -- the amplitudes are at least the magnitude of the sum, so they are not negative
    change |total / amplitudes| ≤ 1
    rw [abs_div]
    exact div_le_one_of_le₀ (h.bound.trans (le_abs_self _)) (abs_nonneg _)
  · exact abs_zero.trans_le zero_le_one

end Weighted

section Octaves

variable {lacunarity persistence amplitude total amplitudes : ℚ}

theorem abs_addOctaves2_le (hpersistence : 0 ≤ persistence) (x z : ℚ) (n : ℕ) (seed : UInt64)
    (frequency : ℚ) (h : Weighted amplitude total amplitudes) :
    |addOctaves2 lacunarity persistence x z n seed frequency amplitude total amplitudes| ≤ 1 := by
  induction n generalizing seed frequency amplitude total amplitudes with
  | zero => exact h.abs_normalize_le
  | succ n ih =>
    have hoctave := Noise.abs_le_one_of_mem (Noise.value2_mem seed (x * frequency) (z * frequency))
    exact ih _ _ (h.step hoctave hpersistence)

theorem abs_addOctaves3_le (hpersistence : 0 ≤ persistence) (x y z : ℚ) (n : ℕ) (seed : UInt64)
    (frequency : ℚ) (h : Weighted amplitude total amplitudes) :
    |addOctaves3 lacunarity persistence x y z n seed frequency amplitude total amplitudes| ≤ 1 := by
  induction n generalizing seed frequency amplitude total amplitudes with
  | zero => exact h.abs_normalize_le
  | succ n ih =>
    have hoctave := Noise.abs_le_one_of_mem
      (Noise.value3_mem seed (x * frequency) (y * frequency) (z * frequency))
    exact ih _ _ (h.step hoctave hpersistence)

variable {f : Fractal ℚ}

theorem abs_sample2_le (h : 0 ≤ f.persistence) (x z : ℚ) : |f.sample2 x z| ≤ 1 :=
  abs_addOctaves2_le h x z _ _ _ .zero

theorem abs_sample3_le (h : 0 ≤ f.persistence) (x y z : ℚ) : |f.sample3 x y z| ≤ 1 :=
  abs_addOctaves3_le h x y z _ _ _ .zero

theorem sample2_of_octaves_eq_zero (h : f.octaves = 0) (x z : ℚ) : f.sample2 x z = 0 := by
  unfold sample2
  rw [h]
  rfl

theorem sample3_of_octaves_eq_zero (h : f.octaves = 0) (x y z : ℚ) : f.sample3 x y z = 0 := by
  unfold sample3
  rw [h]
  rfl

end Octaves

end Fractal

/-! ## All noise -/

namespace Noise

/-- Value noise lies between the least and the greatest value of the lattice points around a point,
so it is at least minus one and less than one, and at a lattice point it is the value there. A sum
of any octaves whose amplitudes are not negative lies between minus one and one, and without
octaves it is zero. Ridges of either lie between zero and one. The ranges hold at every point, also
beyond the lattice. -/
theorem noise_in_range :
    (∀ (seed : UInt64) (x y z : ℚ), |x| < 2 ^ 62 → |z| < 2 ^ 62 →
      value2 seed x z ∈ hull (corner2 seed x z) ∧
        (|y| < 2 ^ 62 → value3 seed x y z ∈ hull (corner3 seed x y z))) ∧
    (∀ (seed : UInt64) (i j k : ℤ), |(i : ℚ)| < 2 ^ 62 → |(k : ℚ)| < 2 ^ 62 →
      value2 seed (i : ℚ) k = Lattice.at2 seed i k ∧
        (|(j : ℚ)| < 2 ^ 62 → value3 seed (i : ℚ) j k = Lattice.at3 seed i j k)) ∧
    (∀ (seed : UInt64) (x y z : ℚ),
      (value2 seed x z ∈ Set.Ico (-1) 1 ∧ ridge (value2 seed x z) ∈ Set.Icc 0 1) ∧
        value3 seed x y z ∈ Set.Ico (-1) 1 ∧ ridge (value3 seed x y z) ∈ Set.Icc 0 1) ∧
    (∀ f : Fractal ℚ, 0 ≤ f.persistence → ∀ x y z,
      (f.sample2 x z ∈ Set.Icc (-1) 1 ∧ ridge (f.sample2 x z) ∈ Set.Icc 0 1) ∧
        f.sample3 x y z ∈ Set.Icc (-1) 1 ∧ ridge (f.sample3 x y z) ∈ Set.Icc 0 1) ∧
    ∀ f : Fractal ℚ, f.octaves = 0 → ∀ x y z, f.sample2 x z = 0 ∧ f.sample3 x y z = 0 := by
  refine ⟨?corners, ?lattice, ?values, ?octaves, ?none⟩
  case corners =>
    intro seed x y z hx hz
    exact ⟨value2_mem_hull seed hx hz, fun hy => value3_mem_hull seed hx hy hz⟩
  case lattice =>
    intro seed i j k hi hk
    exact ⟨value2_intCast seed hi hk, fun hj => value3_intCast seed hi hj hk⟩
  case values =>
    intro seed x y z
    have hplane := value2_mem seed x z
    have hspace := value3_mem seed x y z
    exact ⟨⟨mem_Ico_of_mem hplane, ridge_mem (abs_le_one_of_mem hplane)⟩,
      mem_Ico_of_mem hspace, ridge_mem (abs_le_one_of_mem hspace)⟩
  case octaves =>
    intro f hf x y z
    have hplane := Fractal.abs_sample2_le hf x z
    have hspace := Fractal.abs_sample3_le hf x y z
    exact ⟨⟨abs_le.mp hplane, ridge_mem hplane⟩, abs_le.mp hspace, ridge_mem hspace⟩
  case none =>
    intro f hf x y z
    exact ⟨Fractal.sample2_of_octaves_eq_zero hf x z, Fractal.sample3_of_octaves_eq_zero hf x y z⟩

/-- A point with coordinates of both signs, a lattice point below zero, octaves whose amplitudes
grow and whose frequencies change their sign, and a sum of none. -/
theorem noise_in_range_samples :
    (|(-7 / 2 : ℚ)| < 2 ^ 62 ∧ |(1 / 3 : ℚ)| < 2 ^ 62 ∧ |(5 / 4 : ℚ)| < 2 ^ 62 ∧
        |((-3 : ℤ) : ℚ)| < 2 ^ 62 ∧ |((8 : ℤ) : ℚ)| < 2 ^ 62 ∧ (0 : ℚ) ≤ 2) ∧
      value2 9 (-7 / 2 : ℚ) (5 / 4) ∈ hull (corner2 9 (-7 / 2) (5 / 4)) ∧
      value3 9 (-7 / 2 : ℚ) (1 / 3) (5 / 4) ∈ hull (corner3 9 (-7 / 2) (1 / 3) (5 / 4)) ∧
      value2 9 ((-3 : ℤ) : ℚ) (8 : ℤ) = Lattice.at2 9 (-3) 8 ∧
      (⟨9, 5, 1 / 7, -3, 2⟩ : Fractal ℚ).sample3 (-7 / 2) (1 / 3) (5 / 4) ∈ Set.Icc (-1) 1 ∧
      (⟨9, 0, 1 / 7, -3, 2⟩ : Fractal ℚ).sample2 (-7 / 2) (5 / 4) = 0 := by
  have hx : |(-7 / 2 : ℚ)| < 2 ^ 62 := by norm_num [abs_lt]
  have hy : |(1 / 3 : ℚ)| < 2 ^ 62 := by norm_num [abs_lt]
  have hz : |(5 / 4 : ℚ)| < 2 ^ 62 := by norm_num [abs_lt]
  have hi : |((-3 : ℤ) : ℚ)| < 2 ^ 62 := by norm_num [abs_lt]
  have hk : |((8 : ℤ) : ℚ)| < 2 ^ 62 := by norm_num [abs_lt]
  obtain ⟨hcorners, hlattice, -, hoctaves, hnone⟩ := noise_in_range
  obtain ⟨hplane, hspace⟩ := hcorners 9 _ (1 / 3) _ hx hz
  exact ⟨⟨hx, hy, hz, hi, hk, zero_le_two⟩, hplane, hspace hy, (hlattice 9 _ 0 _ hi hk).1,
    (hoctaves ⟨9, 5, 1 / 7, -3, 2⟩ zero_le_two _ _ _).2.1,
    (hnone ⟨9, 0, 1 / 7, -3, 2⟩ rfl _ 0 _).1⟩

end Noise

end Landform
