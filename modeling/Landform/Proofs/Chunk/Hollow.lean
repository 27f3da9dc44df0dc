import Landform.Proofs.Chunk.Agreement
import Landform.Proofs.Terrain.Carving

/-! # Hollows

The materials of a chunk over any kind of numbers, from samples of its columns and from what counts
as solid. Over doubles these are the materials that generation leaves, over exact numbers those that
the formulas stand for. The ripple is added after carving, so a voxel that is fully carved keeps
nothing but the ripple of its column: it is hollow in a column whose ripple is not positive, and
solid in every other one below the ceiling. -/

namespace Landform

open Layout
open scoped Scalar

/-! ## Materials over any numbers -/

/-- What the materials of a chunk are computed from. -/
structure Site (α : Type) where
  ground : Ground α
  bands : MaterialBands α
  smoothing : SmoothingTable α
  marking : Marking α
  column : Fin width → Fin width → ColumnSample α
  /-- Whether a density is that of a solid voxel. -/
  solid : α → Bool

namespace Site

section Any

variable {α : Type} [Scalar α]

/-- The site of a key under a table, with given samples of the columns. -/
def ofTable (t : Table α) (key : ChunkKey) (column : Fin width → Fin width → ColumnSample α)
    (solid : α → Bool) : Site α where
  ground := .ofTable (t.dimension key.dimension) key
  bands := (t.dimension key.dimension).bands
  smoothing := t.smoothing
  marking := .ofTable (t.dimension key.dimension).markers key
  column := column
  solid := solid

variable (s : Site α) (x : Fin width) (y : Fin height) (z : Fin width)

/-- The density of a voxel. -/
def densityAt : α := s.ground.density x y z (s.column x z)

/-- The depth of a voxel below the surface of its column. -/
def depthAt : α := (s.column x z).height - Scalar.ofNat y

/-- The material of a voxel before smoothing. -/
def groundAt : Material := s.bands.classify (s.solid (s.densityAt x y z)) y (s.depthAt x y z)

/-- The material of all voxels before smoothing. -/
def groundField : VoxelField Material :=
  .ofFn fun p => s.groundAt (voxelX p) (voxelY p) (voxelZ p)

/-- The material of a voxel after smoothing. -/
def smoothedAt : Material := s.smoothing.apply s.groundField x y z

/-- The marks of a voxel. -/
def marksAt : Marks :=
  if (s.smoothedAt x y z).takesMarks then
    s.marking.sample (s.ground.voxelPoint x y z) y
  else 0

/-- The material of a voxel. -/
def materialAt : Material :=
  s.marking.compose (s.smoothedAt x y z) (s.marksAt x y z) y (s.depthAt x y z)

theorem groundField_value : s.groundField.value x y z = s.groundAt x y z := by
  change s.groundField.get (voxel x y z) = _
  rw [groundField, ofFn_get, voxelX_voxel, voxelY_voxel, voxelZ_voxel]

variable {s x y z}

/-- What is not solid ends as air. -/
theorem air_of_not_solid (h : s.solid (s.densityAt x y z) = false) :
    s.groundAt x y z = .air ∧ s.materialAt x y z = .air := by
  have hground : s.groundAt x y z = .air := by
    rw [groundAt, h]
    rfl
  have hsmoothed : s.smoothedAt x y z = .air := by
    rcases s.smoothing.apply_eq_or_air s.groundField x y z with hsame | hair
    · rw [smoothedAt, hsame, groundField_value, hground]
    · exact hair
  refine ⟨hground, ?_⟩
  rw [materialAt, Marking.compose_of_not_takesMarks _ (by rw [hsmoothed]; rfl), hsmoothed]

end Any

/-- A voxel that is reached by carving, with noise up to the outer edge or beyond, where nothing of
its height above or below the surface is left in its density. -/
structure FullyCarved {α : Type} [Scalar α] (s : Site α) (c : Caves α) (x : Fin width)
    (y : Fin height) (z : Fin width) : Prop where
  reaches : c.Reaches y (s.column x z).height
  noise : c.outerEdge ≤ s.ground.carvingAt c x y z

/-! ## Over doubles -/

/-- The site of a key, with the samples and the densities of generation. -/
def ofGenerator (g : Generator) (key : ChunkKey) : Site Float :=
  ofTable g.table key (g.columnAt key) fun d => isSolid (storedDensity d).value

/-- Generation leaves the materials of its site. -/
theorem materialAt_ofGenerator (g : Generator) (key : ChunkKey) :
    (ofGenerator g key).materialAt = g.materialAt key := by
  have hground (x : Fin width) (y : Fin height) (z : Fin width) :
      (ofGenerator g key).groundAt x y z = g.groundAt key x y z := by
    have hdensity : (storedDensity (g.preciseDensityAt key x y z)).value =
        g.densityAt key x y z := by
      unfold storedDensity Generator.densityAt
      split <;> rfl
    unfold Generator.groundAt
    rw [← hdensity]
    rfl
  have hfield : (ofGenerator g key).groundField = g.groundField key :=
    congrArg Vector.ofFn (funext fun p => hground ..)
  funext x y z
  unfold materialAt marksAt smoothedAt
  rw [hfield]
  rfl

/-! ## Over exact numbers -/

/-- The site of a key over exact numbers, where a voxel is solid if its density is positive. -/
def exact (t : Table ℚ) (key : ChunkKey) (column : Fin width → Fin width → ColumnSample ℚ) :
    Site ℚ :=
  ofTable t key column fun d => decide (0 < d)

/-- Under an accepted table a fully carved voxel has the ripple of its column as its density, below
the ceiling. So it is air in the end where that ripple is not positive, and from the ceiling on.
Everywhere else it is solid, and the bands give it a material of ground. -/
theorem exact_of_fullyCarved {t : Table ℚ} (ht : t.check = .ok ()) (key : ChunkKey)
    (column : Fin width → Fin width → ColumnSample ℚ) {c : CaveCarving ℚ}
    (hc : (t.dimension key.dimension).caves = some c) {x z : Fin width} {y : Fin height}
    (h : (exact t key column).FullyCarved (c.caves key) x y z) :
    let s := exact t key column
    let ceiling := (t.dimension key.dimension).ceiling.toNat
    (s.densityAt x y z = if ceiling ≤ y then min (column x z).ripple 0 else (column x z).ripple) ∧
      (s.densityAt x y z ≤ 0 ↔ (column x z).ripple ≤ 0 ∨ ceiling ≤ y) ∧
      (s.densityAt x y z ≤ 0 → s.groundAt x y z = .air ∧ s.materialAt x y z = .air) ∧
      (0 < s.densityAt x y z → (s.groundAt x y z).isGround = true) := by
  intro s ceiling
  have hcaves : s.ground.caves = some (c.caves key) := by
    change (t.dimension key.dimension).caves.map (·.caves key) = _
    rw [hc]
    rfl
  have hzero : s.ground.caveFactor x y z (s.column x z).height = 0 :=
    Ground.caveFactor_eq_zero hcaves (Ground.edges_of_check ht hcaves) h.reaches h.noise
  have hdensity : s.densityAt x y z =
      if ceiling ≤ y then min (column x z).ripple 0 else (column x z).ripple := by
    rw [densityAt, Ground.density_eq, hzero, mul_zero, zero_add]
    rfl
  refine ⟨hdensity, ?_, fun h => ?_, fun h => ?_⟩
  · rw [hdensity]
    split
    · rename_i h
      exact iff_of_true (min_le_right _ _) (.inr h)
    · rename_i h
      exact (or_iff_left h).symm
  · exact air_of_not_solid (decide_eq_false (not_lt.mpr h))
  · have hsolid : s.solid (s.densityAt x y z) = true := decide_eq_true h
    rw [groundAt, hsolid]
    exact MaterialBands.isGround_material (Table.bands_check ht key.dimension) _ _

/-! ### A carved voxel that is solid -/

/-- Powers with whole exponents. -/
abbrev wholePowers : Powers ℚ := ⟨fun b e => b ^ e.floor.toNat⟩

/-- The samples of the columns of a key over exact numbers, for ridges with a whole exponent. -/
def exactColumn (t : Table ℚ) (key : ChunkKey) (x z : Fin width) : ColumnSample ℚ :=
  let g := Ground.ofTable (t.dimension key.dimension) key
  ⟨@Ground.heldHeight _ _ wholePowers g x z, g.rippleAt x z⟩

/-- A chunk with a voxel that is carved to the last. -/
def hollowKey : ChunkKey := ⟨0, 3, 12, .overworld⟩

/-- The caves of the default overworld. -/
def overworldCarving : CaveCarving ℚ := { (CaveCarving.default : CaveCarving ℚ) with salt := 0x13 }

theorem hollowKey_fullyCarved :
    (exact .default hollowKey (exactColumn .default hollowKey)).FullyCarved
      (overworldCarving.caves hollowKey) 10 15 9 :=
  ⟨⟨by decide, by decide +kernel⟩, by decide +kernel⟩

/-- That voxel, and the same one in a column with a ripple below zero. -/
theorem exact_of_fullyCarved_hollowKey :
    (exact .default hollowKey (exactColumn .default hollowKey)).FullyCarved
        (overworldCarving.caves hollowKey) 10 15 9 ∧
      ((exact .default hollowKey (exactColumn .default hollowKey)).densityAt 10 15 9 ≤ 0 ↔
        (exactColumn .default hollowKey 10 9).ripple ≤ 0) ∧
      (exact .default hollowKey fun _ _ => ⟨60, -1 / 20⟩).materialAt 10 15 9 = .air := by
  have hceiling :
      ¬ ((Table.default : Table ℚ).dimension hollowKey.dimension).ceiling.toNat ≤
        (15 : Fin height).val := by decide
  have hsunk : (exact .default hollowKey fun _ _ => ⟨60, -1 / 20⟩).FullyCarved
      (overworldCarving.caves hollowKey) 10 15 9 :=
    ⟨⟨by decide, by decide +kernel⟩, by decide +kernel⟩
  obtain ⟨-, hiff, -, -⟩ := exact_of_fullyCarved Table.check_default_rat hollowKey
    (exactColumn .default hollowKey) rfl hollowKey_fullyCarved
  obtain ⟨-, hiffSunk, hair, -⟩ := exact_of_fullyCarved Table.check_default_rat hollowKey
    (fun _ _ => ⟨60, -1 / 20⟩) rfl hsunk
  exact ⟨hollowKey_fullyCarved, hiff.trans (or_iff_left hceiling),
    (hair (hiffSunk.mpr (.inl (by decide +kernel)))).2⟩

/-- In the default table a voxel that is 38 blocks deep and carved to the last is solid and ends as
stone. -/
theorem hollowKey_not_hollow :
    (Table.default : Table ℚ).check = .ok () ∧ hollowKey.inRange = true ∧
      (Table.default : Table ℚ).overworld.caves = some overworldCarving ∧
      let s := exact .default hollowKey (exactColumn .default hollowKey)
      s.FullyCarved (overworldCarving.caves hollowKey) 10 15 9 ∧
        0 < s.densityAt 10 15 9 ∧ s.materialAt 10 15 9 = .stone := by
  -- only the voxel and its neighbours are computed, not the ground of the whole chunk
  have hsmoothed :
      (exact .default hollowKey (exactColumn .default hollowKey)).smoothedAt 10 15 9 = .stone := by
    simp only [smoothedAt, SmoothingTable.apply, solidFraction, neighbours, groundField_value]
    decide +kernel
  refine ⟨Table.check_default_rat, by decide, rfl, hollowKey_fullyCarved, by decide +kernel, ?_⟩
  have hmarks :
      (exact .default hollowKey (exactColumn .default hollowKey)).marksAt 10 15 9 = 0 := by
    unfold marksAt
    rw [hsmoothed]
    decide +kernel
  unfold materialAt
  rw [hsmoothed, hmarks]
  decide +kernel

end Site

end Landform
