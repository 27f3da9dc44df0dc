import Landform.Terrain.Density

/-! # Marking

Four independent noises mark voxels as part of a cave, of a vein of ore, of a water pocket, or as
the anchor of a structure. A marked voxel of the ground takes the material of its mark. Of several
marks the first of cave, water, ore and structure counts. -/

namespace Landform

open scoped Scalar

/-- The noise of a marker with the value that it has to exceed. -/
structure MarkerNoise (α : Type) where
  noise : Fractal α
  threshold : α

/-- The markers of one chunk. -/
structure Marking (α : Type) where
  cave : Option (MarkerNoise α)
  ore : Option (MarkerNoise α)
  water : Option (MarkerNoise α)
  structure_ : Option (MarkerNoise α)
  seaLevel : Int32
  oreBands : List OreBand
  structureBands : List (StructureBand α)

variable {α : Type} [Scalar α]

/-- The noise of a channel in the world and the dimension of a key. -/
def MarkerChannel.noise (key : ChunkKey) (c : MarkerChannel α) : MarkerNoise α :=
  ⟨.ofOctaves (channelSeed key.seed key.dimension c.salt) c.octaves c.frequency, c.threshold⟩

/-- Whether the noise exceeds the threshold at a point. -/
@[specialize]
def MarkerNoise.fires (m : MarkerNoise α) (p : Point3 α) : Bool :=
  decide (m.threshold < m.noise.sample3 p.x p.y p.z)

namespace Marking

/-- The markers of a key under the table of its dimension. -/
def ofTable (t : MarkerTable α) (key : ChunkKey) : Marking α where
  cave := t.cave.map (·.noise key)
  ore := t.ore.map (·.noise key)
  water := t.water.map (·.noise key)
  structure_ := t.structure_.map (·.noise key)
  seaLevel := t.seaLevel
  oreBands := t.oreBands
  structureBands := t.structureBands

/-- The bit of a marker, if its noise is there and fires. -/
@[specialize]
def bitIf (m : Marker) (noise : Option (MarkerNoise α)) (p : Point3 α) : Marks :=
  match noise with
  | some n => if n.fires p then m.bit else 0
  | none => 0

/-- The marks of a voxel at height `y` whose noise is taken at a point. Heights count as 32-bit
numbers, and water is only marked below the sea level. -/
@[specialize]
def sample (k : Marking α) (p : Point3 α) (y : Nat) : Marks :=
  bitIf .cave k.cave p ||| bitIf .ore k.ore p |||
    (if Int32.ofNat y < k.seaLevel then bitIf .water k.water p else 0) |||
    bitIf .structure_ k.structure_ p

/-- The ore at a height: that of the first band above it, and of the last band if there is none. -/
def oreAt (k : Marking α) (y : Nat) : Material :=
  match (k.oreBands.find? fun b => decide (Int32.ofNat y < b.belowY)).or k.oreBands.getLast? with
  | some band => band.ore
  | none => .coalOre

/-- The structure at a depth: that of the first band below it, and of the last band if there is
none. -/
def structureAt (k : Marking α) (depth : α) : Material :=
  match (k.structureBands.find? fun b => decide (depth < b.maxDepth)).or
      k.structureBands.getLast? with
  | some band => band.structure_
  | none => .undergroundStructure

/-- The material of a voxel under its marks. -/
def compose (k : Marking α) (ground : Material) (marks : Marks) (y : Nat) (depth : α) : Material :=
  if ground.takesMarks then
    if marks.has .cave then .cave
    else if marks.has .water then .water
    else if marks.has .ore then k.oreAt y
    else if marks.has .structure_ then k.structureAt depth
    else ground
  else ground

end Marking

end Landform
