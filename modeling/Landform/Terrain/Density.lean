import Landform.Channel
import Landform.Noise.Fractal
import Landform.Number.Power
import Landform.Table.Default

/-! # Heights and densities

The ground of one key. A column has a height, which is the base of the profile and a weighted sum
of noise, held between the bounds of the profile. The density of a voxel is its distance below that
height, thinned out by caves and moved by the ripple of the column; a voxel is solid where its
density is positive. Nothing is solid from the ceiling on. -/

namespace Landform

open scoped Scalar

/-- Numbers that can be raised to a power. -/
class Powers (α : Type) where
  pow : α → α → α

instance : Powers Float := ⟨pow⟩

/-! ## Points -/

/-- A point of the plane. -/
structure Point2 (α : Type) where
  x : α
  z : α

/-- A point of space. -/
structure Point3 (α : Type) where
  x : α
  y : α
  z : α

/-! ## The ground of a key -/

/-- A layer of noise with its amplitude in blocks. -/
structure Relief (α : Type) where
  noise : Fractal α
  amplitude : α

/-- Ridges with their amplitude in blocks and their exponent. -/
structure Ridges (α : Type) where
  noise : Fractal α
  amplitude : α
  sharpness : α

/-- The noise of caves with the limits of carving. -/
structure Caves (α : Type) where
  noise : Fractal α
  innerEdge : α
  outerEdge : α
  surfaceShell : α
  floor : Nat

/-- What the heights and densities of one chunk are computed from. -/
structure Ground (α : Type) where
  /-- The corner of the chunk, moved by the column offset of the world. -/
  origin : Point2 α
  /-- The volume offset of the world. -/
  volume : Point3 α
  base : α
  layers : List (Relief α)
  ridges : Option (Ridges α)
  minHeight : α
  maxHeight : α
  ripple : Relief α
  caves : Option (Caves α)
  ceiling : Nat

/-- The height of a column and the ripple of its densities. -/
structure ColumnSample (α : Type) where
  height : α
  ripple : α

variable {α : Type} [Scalar α]

/-- The noise of a layer in the world and the dimension of a key. -/
def NoiseLayer.relief (key : ChunkKey) (l : NoiseLayer α) : Relief α :=
  ⟨.ofOctaves (channelSeed key.seed key.dimension l.salt) l.octaves l.frequency, l.amplitude⟩

namespace Ground

/-- The ground of a key under the table of its dimension. -/
def ofTable (t : DimensionTable α) (key : ChunkKey) : Ground α :=
  let seed := channelSeed key.seed key.dimension
  let offset := WorldOffset.ofSeed key.seed
  let (blockX, blockZ) := key.blockOrigin
  { origin := ⟨Scalar.ofInt blockX + Scalar.ofInt offset.columnX,
      Scalar.ofInt blockZ + Scalar.ofInt offset.columnZ⟩
    volume := ⟨Scalar.ofInt offset.volumeX, Scalar.ofInt offset.volumeY,
      Scalar.ofInt offset.volumeZ⟩
    base := t.height.base
    layers := t.height.layers.map (·.relief key)
    ridges := t.height.ridge.map fun r =>
      ⟨.ofOctaves (seed r.salt) r.octaves r.frequency, r.amplitude, r.sharpness⟩
    minHeight := t.height.minHeight
    maxHeight := t.height.maxHeight
    ripple := t.ripple.relief key
    caves := t.caves.map fun c =>
      ⟨.ofOctaves (seed c.salt) c.octaves c.frequency, c.innerEdge, c.outerEdge, c.surfaceShell,
        c.floor.toNat⟩
    ceiling := t.ceiling.toNat }

/-- The point at which the column noise of a local column is taken. -/
@[inline]
def columnPoint (g : Ground α) (x z : Nat) : Point2 α :=
  ⟨g.origin.x + Scalar.ofNat x, g.origin.z + Scalar.ofNat z⟩

/-- The point at which the volume noise of a local voxel is taken. -/
@[inline]
def voxelPoint (g : Ground α) (x y z : Nat) : Point3 α :=
  ⟨g.origin.x + Scalar.ofNat x + g.volume.x, Scalar.ofNat y + g.volume.y,
    g.origin.z + Scalar.ofNat z + g.volume.z⟩

/-! ## Columns -/

/-- The height at a point before it is held between the bounds. -/
@[specialize]
def rawHeight [Powers α] (g : Ground α) (p : Point2 α) : α :=
  let height := g.layers.foldl
    (fun height l => height + l.amplitude * l.noise.sample2 p.x p.z) g.base
  match g.ridges with
  | none => height
  | some r => height + r.amplitude * Powers.pow (Noise.ridge (r.noise.sample2 p.x p.z)) r.sharpness

/-- The height of a local column. Heights lie between the bounds, which have to be in order for
that. A sum that is not a number has no place among them and stays what it is. -/
@[specialize]
def height [Powers α] (g : Ground α) (x z : Nat) : Except RequestError α :=
  let h := g.rawHeight (g.columnPoint x z)
  if ¬ (h ≤ h) then .ok h
  else if g.minHeight ≤ g.maxHeight then .ok (Scalar.clamp g.minHeight g.maxHeight h)
  else .error .unorderedHeights

/-- The ripple of a local column. -/
@[specialize]
def rippleAt (g : Ground α) (x z : Nat) : α :=
  let p := g.columnPoint x z
  g.ripple.amplitude * g.ripple.noise.sample2 p.x p.z

/-- The height and the ripple of a local column. -/
@[specialize]
def column [Powers α] (g : Ground α) (x z : Nat) : Except RequestError (ColumnSample α) := do
  let height ← g.height x z
  pure ⟨height, g.rippleAt x z⟩

/-! ## Voxels -/

/-- What carving leaves of a density, from one for everything to zero for nothing. Nothing is carved
near the surface, below the floor and where there are no caves. -/
@[specialize]
def caveFactor (g : Ground α) (x y z : Nat) (height : α) : α :=
  match g.caves with
  | none => 1
  | some c =>
    if y < c.floor ∨ height - Scalar.ofNat y < c.surfaceShell then 1
    else
      let p := g.voxelPoint x y z
      1 - Noise.smoothstep c.innerEdge c.outerEdge (Scalar.abs (c.noise.sample3 p.x p.y p.z))

/-- The density of a local voxel in a column. -/
@[specialize]
def density (g : Ground α) (x y z : Nat) (column : ColumnSample α) : α :=
  let d := (column.height - Scalar.ofNat y) * g.caveFactor x y z column.height + column.ripple
  if g.ceiling ≤ y then (if d < 0 then d else 0) else d

end Ground

end Landform
