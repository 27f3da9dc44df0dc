import Landform.Checksum
import Landform.Chunk.Basic
import Landform.Chunk.Stage
import Landform.Table.Check
import Landform.Terrain.Climate
import Landform.Terrain.Ground
import Landform.Terrain.Marking

/-! # Generation

A chunk is generated in four stages: the columns, the density of every voxel, the ground, and the
marks with the final materials. A stage starts when the one before has ended, and within a stage
the units run in the order of a plan. -/

namespace Landform

open Layout

/-- A table that has passed its check. -/
structure Generator where
  table : Table Float
  checked : table.check = .ok ()

namespace Generator

/-- The generator of a table, or the first fault of the table. -/
def ofTable (t : Table Float) : Except RequestError Generator :=
  match h : t.check with
  | .ok () => .ok ⟨t, h⟩
  | .error fault => .error (.invalidTable fault)

end Generator

/-! ## Densities as they are stored -/

/-- Whether a voxel of this density is solid. -/
def isSolid (density : Float32) : Bool := !(density ≤ 0 || density.isNaN)

/-- The density that is stored, in single precision. A density that is not finite counts as an
anomaly and is stored as zero. -/
@[inline]
def storedDensity (d : Float) : Reading Float32 :=
  if d.isFinite then ⟨Double.toSingle d, 0⟩ else ⟨0, 1⟩

/-! ## Stages -/

/-- What is known about a column after the first stage. -/
structure ColumnData where
  sample : ColumnSample Float
  biome : Biome

/-- What a column is before the first stage. -/
def ColumnData.blank : ColumnData := ⟨⟨0, 0⟩, .plain⟩

/-- What the stages of one chunk work with. -/
structure Worksite where
  ground : Ground Float
  climate : Climate Float
  marking : Marking Float
  bands : MaterialBands Float
  smoothing : SmoothingTable Float
  /-- Takes the place of a height that is not finite. -/
  fallbackHeight : Float

namespace Worksite

/-- The height that takes the place of one that is not finite: the base held between the bounds, or
else the lower bound, or else zero. -/
def fallback (h : HeightProfile Float) : Except RequestError Float :=
  if h.minHeight ≤ h.maxHeight then
    let base := Scalar.clamp h.minHeight h.maxHeight h.base
    .ok (if base.isFinite then base else if h.minHeight.isFinite then h.minHeight else 0)
  else .error .unorderedHeights

/-- What the stages of a key work with under a table. -/
def ofTable (t : Table Float) (key : ChunkKey) : Except RequestError Worksite := do
  let d := t.dimension key.dimension
  let fallbackHeight ← fallback d.height
  pure
    { ground := .ofTable d key
      climate := .ofTable t.climate key.seed key.dimension
      marking := .ofTable d.markers key
      bands := d.bands
      smoothing := t.smoothing
      fallbackHeight }

/-- The biome of a column. -/
def biomeAt (w : Worksite) (i : Fin area) : Biome :=
  w.climate.biomeAt (w.ground.columnPoint (columnX i) (columnZ i))

/-- First stage: height, ripple and biome of a column. Values that are not finite count as anomalies
and are replaced. -/
def column (w : Worksite) (i : Fin area) : Except RequestError (Reading ColumnData) := do
  let sample ← w.ground.column (columnX i) (columnZ i)
  let badHeight := !sample.height.isFinite
  let badRipple := !sample.ripple.isFinite
  pure
    ⟨⟨⟨if badHeight then w.fallbackHeight else sample.height,
          if badRipple then 0 else sample.ripple⟩,
        w.biomeAt i⟩,
      (if badHeight then 1 else 0) + (if badRipple then 1 else 0)⟩

/-- The depth below the surface of a voxel. -/
@[inline]
def depth (columns : ColumnField ColumnData) (y : Fin height) (i : Fin area) : Float :=
  (columns.get i).sample.height - Scalar.ofNat y

/-- Second stage: the density of a voxel. -/
def density (w : Worksite) (columns : ColumnField ColumnData) (y : Fin height) (i : Fin area) :
    Reading Float32 :=
  storedDensity (w.ground.density (columnX i) y (columnZ i) (columns.get i).sample)

/-- Third stage: the material of a voxel before smoothing, from its stored density. -/
def groundMaterial (w : Worksite) (columns : ColumnField ColumnData) (density : VoxelField Float32)
    (y : Fin height) (i : Fin area) : Reading Material :=
  ⟨w.bands.classify (isSolid (density.get (layerPlace y i))) y (depth columns y i), 0⟩

/-- The marks of a voxel whose material after smoothing is given. -/
def marksOf (w : Worksite) (smoothed : Material) (y : Fin height) (i : Fin area) : Marks :=
  if smoothed.takesMarks then
    w.marking.sample (w.ground.voxelPoint (columnX i) y (columnZ i)) y
  else 0

/-- Fourth stage: the final material of a voxel and its marks. -/
def finish (w : Worksite) (columns : ColumnField ColumnData) (ground : VoxelField Material)
    (y : Fin height) (i : Fin area) : Reading (Material × Marks) :=
  let smoothed := w.smoothing.apply ground (columnX i) y (columnZ i)
  let marks := w.marksOf smoothed y i
  ⟨(w.marking.compose smoothed marks y (depth columns y i), marks), 0⟩

end Worksite

/-! ## Chunks -/

/-- The counters of a finished generation. -/
def Diagnostics.ofFields (anomalies : Nat) (ground : VoxelField Material)
    (final : VoxelField (Material × Marks)) : Diagnostics where
  anomalies := anomalies
  solid := ground.countP (· != .air)
  smoothed := (ground.zip final).countP fun (before, after, _) => before != .air && after == .air
  caves := final.countP (·.2.has .cave)
  ores := final.countP (·.2.has .ore)
  waters := final.countP (·.2.has .water)
  structures := final.countP (·.2.has .structure_)

namespace Generator

/-- Generates a chunk by a plan. A request that is withdrawn beforehand is refused, once its key has
been found in range. -/
def run (g : Generator) (plan : Plan) (key : ChunkKey) (cancelled : Bool) :
    Except RequestError Chunk := do
  key.check
  if cancelled then throw .cancelled
  let w ← Worksite.ofTable g.table key
  let columns ← runColumns plan.columns w.column ⟨Vector.replicate _ .blank, 0⟩
  let density := runLayers plan.density (w.density columns.field)
    ⟨Vector.replicate _ 0, columns.anomalies⟩
  let ground := runLayers plan.ground (w.groundMaterial columns.field density.field)
    ⟨Vector.replicate _ .air, 0⟩
  let final := runLayers plan.marks (w.finish columns.field ground.field)
    ⟨Vector.replicate _ (.air, 0), 0⟩
  let biome := columns.field.map (·.biome)
  pure
    { key
      density := density.field
      material := final.field.map (·.1)
      marks := final.field.map (·.2)
      biome
      checksum := Checksum.ofBiomes key biome.toList
      diagnostics := .ofFields density.anomalies ground.field final.field }

/-- Generates a chunk under a schedule. -/
def generate (g : Generator) (schedule : Schedule) (key : ChunkKey) (cancelled : Bool := false) :
    Except RequestError Chunk :=
  g.run schedule.plan key cancelled

/-- The biomes of a chunk, without any voxel. -/
def biomeField (g : Generator) (schedule : Schedule) (key : ChunkKey) :
    Except RequestError (ColumnField Biome) := do
  key.check
  let ground := Ground.ofTable (g.table.dimension key.dimension) key
  let climate := Climate.ofTable g.table.climate key.seed key.dimension
  let biomes ← runColumns schedule.plan.columns
    (fun i => pure ⟨climate.biomeAt (ground.columnPoint (columnX i) (columnZ i)), 0⟩)
    ⟨Vector.replicate _ .plain, 0⟩
  pure biomes.field

end Generator

/-- Generates a chunk under the default table, from the parts of a request. -/
def generateChunk (x z : Int32) (seed : UInt64) (dimension : Int32) :
    Except RequestError Chunk := do
  let key ← ChunkKey.ofRequest x z seed dimension
  let g ← Generator.ofTable Table.default
  g.generate .parallel key

end Landform
