import Landform.Proofs.Chunk.Agreement
import Landform.Proofs.Terrain.Extent

/-! # Stored densities

Densities are computed in double precision and stored in single precision. One that is not finite is
counted and stored as zero. What is narrowed is finite in double precision, but it need not be
finite in single precision: a density that is too large for it is stored as infinity, and nothing
counts it. No table comes to this whose heights single precision can hold. -/

namespace Landform

open Layout
open Double (value)

/-- A finite height between the bounds of a profile. -/
structure HeightProfile.Holds (p : HeightProfile Float) (h : Float) : Prop where
  isFinite : h.isFinite = true
  low : value p.minHeight ≤ value h
  high : value h ≤ value p.maxHeight

namespace Generator

variable (g : Generator) (key : ChunkKey)

/-! ## Columns -/

section Columns

variable (x z : Fin width)

/-- Holding a height between the bounds does so, if it is finite in the end. -/
theorem holds_clamp {v : Float} :
    let p := (g.table.dimension key.dimension).height
    (Scalar.clamp p.minHeight p.maxHeight v).isFinite = true →
      p.Holds (Scalar.clamp p.minHeight p.maxHeight v) := by
  intro p h
  obtain ⟨hmin, hmax, hle⟩ := g.bounds_of_checked key.dimension
  obtain ⟨hlow, hhigh⟩ := Double.value_clamp hmin hmax hle h
  exact ⟨h, hlow, hhigh⟩

theorem holds_heldHeight (h : ((g.ground key).heldHeight x z).isFinite = true) :
    (g.table.dimension key.dimension).height.Holds ((g.ground key).heldHeight x z) := by
  unfold Ground.heldHeight at h ⊢
  dsimp only at h ⊢
  split at h
  · rename_i hself
    rw [if_pos hself]
    exact g.holds_clamp key h
  · -- only what is not a number stays as it is
    rename_i hself
    exact absurd ((Double.le_iff_value h h).mpr le_rfl) hself

/-- The lower bound is there when the base is of no use, so that zero is never resorted to. -/
theorem holds_spareHeight :
    (g.table.dimension key.dimension).height.Holds (g.spareHeight key) := by
  obtain ⟨hmin, hmax, hle⟩ := g.bounds_of_checked key.dimension
  unfold spareHeight
  dsimp only
  rw [List.find?_cons]
  split
  · rename_i hbase
    exact g.holds_clamp key hbase
  · rw [List.find?_cons_of_pos hmin]
    exact ⟨hmin, le_rfl, (Double.le_iff_value hmin hmax).mp hle⟩

theorem holds_columnAt :
    (g.table.dimension key.dimension).height.Holds (g.columnAt key x z).height := by
  unfold columnAt
  dsimp only
  split
  · rename_i h
    exact g.holds_heldHeight key x z h
  · exact g.holds_spareHeight key

/-- What takes the place of a ripple that is not finite is finite, and no ripple goes far. -/
theorem columnAt_ripple :
    (g.columnAt key x z).ripple.isFinite = true ∧ Double.Within 44 (g.columnAt key x z).ripple := by
  have hd := (Table.check_eq_ok.mp g.checked).1 key.dimension
  unfold columnAt
  dsimp only
  split
  · rename_i h
    exact ⟨h, Ground.within_rippleAt hd key x z⟩
  · exact ⟨rfl, .ofNat (n := 0) (by norm_num) (by norm_num)⟩

end Columns

/-- The heights of an accepted table stay below the number of layers. -/
theorem maxHeight_le : value (g.table.dimension key.dimension).height.maxHeight ≤ 384 := by
  have hd := DimensionTable.check_eq_ok.mp ((Table.check_eq_ok.mp g.checked).1 key.dimension)
  obtain ⟨-, hmax, -⟩ := g.bounds_of_checked key.dimension
  generalize (g.table.dimension key.dimension).ceiling = ceiling at hd
  have hceiling : ceiling.toNat ≤ 384 := hd.2.1
  have hcast : (ceiling.toNat : ℚ) ≤ 384 := by exact_mod_cast hceiling
  obtain ⟨htop, hvalue⟩ := Double.value_ofNat (n := ceiling.toNat) (by omega)
  obtain ⟨hfinite, hbelow⟩ := Double.sub_exact htop Double.value_one.1
    (r := ((ceiling.toNat - 1 : ℤ) : ℚ)) (by rw [hvalue, Double.value_one.2]; push_cast; rfl)
    (onGrid_intCast (by omega)) (abs_intCast_lt (by omega))
  have hle : ¬ Float.ofNat ceiling.toNat - 1 < _ := hd.2.2.1
  rw [Double.lt_iff_value hfinite hmax, hbelow, not_lt] at hle
  refine hle.trans ?_
  push_cast
  linarith

/-! ## Voxels -/

/-- A sum of ones and zeros counts. -/
theorem sum_map_unless {β : Type} (l : List β) (p : β → Bool) :
    (l.map fun b => if p b then 0 else 1).sum = l.countP fun b => !p b := by
  induction l with
  | nil => rfl
  | cons b l ih =>
    rw [List.map_cons, List.sum_cons, List.countP_cons, ih, Nat.add_comm]
    cases p b <;> rfl

/-- Of the voxels those are counted whose density is not finite in double precision. -/
theorem anomalies_eq :
    g.anomalies key =
      ((List.finRange area).map fun i => g.columnAnomalies key (columnX i) (columnZ i)).sum +
        voxelCount fun x y z => !(g.preciseDensityAt key x y z).isFinite := by
  unfold anomalies voxelCount
  rw [sum_map_unless]

/-- A stored density is infinite exactly if it comes from a finite one that is too large for single
precision. -/
theorem densityAt_isFinite (x : Fin width) (y : Fin height) (z : Fin width) :
    (g.densityAt key x y z).isNaN = false ∧
      ((g.densityAt key x y z).isFinite = false ↔
        (g.preciseDensityAt key x y z).isFinite = true ∧
          Double.singleLimit ≤ |value (g.preciseDensityAt key x y z)|) := by
  unfold densityAt
  split
  · rename_i h
    rw [and_iff_right h]
    exact Double.isFinite_toSingle h
  · rename_i h
    exact ⟨by decide +kernel, iff_of_false (by decide +kernel) fun hfinite => h hfinite.1⟩

/-- Where single precision can hold the lower bound of the heights, it can hold every density. -/
theorem densityAt_isFinite_of_minHeight
    (h : -Double.singleMax ≤ value (g.table.dimension key.dimension).height.minHeight)
    (x : Fin width) (y : Fin height) (z : Fin width) :
    (g.densityAt key x y z).isFinite = true := by
  have hheight := g.holds_columnAt key x z
  rw [← Bool.not_eq_false, (g.densityAt_isFinite key x y z).2]
  rintro ⟨hfinite, hlarge⟩
  exact absurd hlarge (not_le.mpr (Ground.abs_density_lt (h.trans hheight.low)
    (hheight.high.trans (g.maxHeight_le key)) (g.columnAt_ripple key x z).2 y.isLt.le hfinite))

/-- Every column of a chunk has a finite height and a finite ripple. No density that a chunk holds
is undefined. Where the density in double precision is not finite, it is zero, and besides heights
and ripples these are all that is counted. Everywhere else it is narrowed, and infinite exactly
where the density in double precision is too large. That is nowhere if single precision can hold the
lower bound of the heights. -/
theorem generate_densities (h : key.inRange = true) :
    ∃ c : Chunk,
      (∀ plan, g.run plan key false = .ok c) ∧
      (∀ schedule, g.generate schedule key = .ok c) ∧
      (∀ x z, (g.columnAt key x z).height.isFinite = true ∧
        (g.columnAt key x z).ripple.isFinite = true) ∧
      (∀ x y z,
        let d := g.preciseDensityAt key x y z
        let stored := c.density.value x y z
        stored.isNaN = false ∧
          (d.isFinite = false → stored = 0) ∧ (d.isFinite = true → stored = Double.toSingle d) ∧
          (stored.isFinite = false ↔ d.isFinite = true ∧ Double.singleLimit ≤ |value d|)) ∧
      c.diagnostics.anomalies =
        ((List.finRange area).map fun i => g.columnAnomalies key (columnX i) (columnZ i)).sum +
          (voxelCount fun x y z => !(g.preciseDensityAt key x y z).isFinite) ∧
      (-Double.singleMax ≤ value (g.table.dimension key.dimension).height.minHeight →
        ∀ x y z, (c.density.value x y z).isFinite = true) := by
  refine ⟨g.voxelwise key, fun plan => g.run_eq_voxelwise key plan h,
    fun schedule => g.run_eq_voxelwise key schedule.plan h, fun x z => ?_, fun x y z => ?_,
    g.anomalies_eq key, fun hmin x y z => ?_⟩
  · exact ⟨(g.holds_columnAt key x z).isFinite, (g.columnAt_ripple key x z).1⟩
  · rw [voxelwise_density]
    obtain ⟨hnan, hiff⟩ := g.densityAt_isFinite key x y z
    exact ⟨hnan, fun hd => if_neg (ne_true_of_eq_false hd), fun hd => if_pos hd, hiff⟩
  · rw [voxelwise_density]
    exact g.densityAt_isFinite_of_minHeight key hmin x y z

/-- In the default table the heights begin at six. -/
theorem standard_generate_densities :
    (⟨3, -7, 11, .overworld⟩ : ChunkKey).inRange = true ∧
      -Double.singleMax ≤ value standard.table.overworld.height.minHeight ∧
      ∃ c : Chunk, standard.generate .parallel ⟨3, -7, 11, .overworld⟩ = .ok c ∧
        ∀ x y z, (c.density.value x y z).isFinite = true := by
  have h : (⟨3, -7, 11, .overworld⟩ : ChunkKey).inRange = true := by decide
  have hmin : -Double.singleMax ≤ value standard.table.overworld.height.minHeight := by
    decide +kernel
  obtain ⟨c, -, hgenerate, -, -, -, hfinite⟩ := standard.generate_densities _ h
  exact ⟨h, hmin, c, hgenerate .parallel, hfinite hmin⟩

/-! ## A density below all of single precision -/

/-- A world whose ground lies below every number of single precision. -/
def abyssTable : Table Float :=
  { (Table.default : Table Float) with
    overworld :=
      { (DimensionTable.overworld : DimensionTable Float) with
        height :=
          { (HeightProfile.default : HeightProfile Float) with
            base := -1e300
            minHeight := -1e300
            maxHeight := -1e300 }
        caves := none } }

theorem abyssTable_check : abyssTable.check = .ok () := by
  have h : abyssTable.check.toBool = true := by decide +kernel
  exact check_eq_ok_of_toBool h

/-- The generator of that table. -/
def abyss : Generator := ⟨abyssTable, abyssTable_check⟩

/-- The density of a voxel of that world is a finite number that the guard lets pass, and negative
infinity is stored for it. -/
theorem abyss_stores_infinity :
    abyss.table.check = .ok () ∧ (⟨0, 0, 0, .overworld⟩ : ChunkKey).inRange = true ∧
      ∃ c : Chunk, abyss.generate .parallel ⟨0, 0, 0, .overworld⟩ = .ok c ∧
        (abyss.preciseDensityAt ⟨0, 0, 0, .overworld⟩ 0 0 0).isFinite = true ∧
        c.density.value 0 0 0 = -(1 / 0) ∧ (c.density.value 0 0 0).isFinite = false := by
  have h : (⟨0, 0, 0, .overworld⟩ : ChunkKey).inRange = true := by decide
  refine ⟨abyssTable_check, h, abyss.voxelwise _, abyss.run_eq_voxelwise _ _ h, ?_, ?_, ?_⟩
  · decide +kernel
  · rw [voxelwise_density]
    decide +kernel
  · rw [voxelwise_density]
    decide +kernel

end Generator

end Landform
