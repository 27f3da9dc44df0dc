import Landform.Number.Scalar
import Landform.Table.Basic
import Landform.Terrain.Layout

/-! # Ground

The material of a solid voxel comes from the bands of its dimension. After that, a voxel that
stands too much alone is cleared. -/

namespace Landform

open Layout
open scoped Scalar

variable {α : Type} [Scalar α]

/-! ## Bands -/

/-- Whether a band covers a voxel at height `y` and at a depth below the surface. -/
def MaterialBand.covers (band : MaterialBand α) (y : Int32) (depth : α) : Bool :=
  decide (band.yMin ≤ y) && decide (y < band.yMax) && decide (band.depthMin ≤ depth) &&
    band.depthMax.all fun max => decide (depth < max)

/-- The material of a solid voxel: that of the first band that covers it, and the fill if none does.
Heights count as 32-bit numbers. -/
def MaterialBands.material (b : MaterialBands α) (y : Nat) (depth : α) : Material :=
  match b.bands.find? (·.covers (Int32.ofNat y) depth) with
  | some band => band.material
  | none => b.fill

/-- The material of a voxel before smoothing. -/
@[inline]
def MaterialBands.classify (b : MaterialBands α) (solid : Bool) (y : Nat) (depth : α) : Material :=
  if solid then b.material y depth else .air

/-! ## Smoothing -/

/-- The numbers below `n` next to the given one. -/
def beside {n : Nat} (c : Fin n) : List (Fin n) :=
  (if 0 < c.val then [⟨c.val - 1, Nat.lt_of_le_of_lt (Nat.sub_le _ _) c.isLt⟩] else []) ++
    (if h : c.val + 1 < n then [⟨c.val + 1, h⟩] else [])

/-- The materials of the voxels of the chunk that share a face with the given one. -/
def neighbours (ground : VoxelField Material) (x : Fin width) (y : Fin height) (z : Fin width) :
    List Material :=
  (beside x).map (ground.value · y z) ++ (beside y).map (ground.value x · z) ++
    (beside z).map (ground.value x y ·)

/-- The part of the neighbours that is solid. -/
def solidFraction (ground : VoxelField Material) (x : Fin width) (y : Fin height)
    (z : Fin width) : α :=
  let around := neighbours ground x y z
  Scalar.ofNat (around.countP (· != .air)) / Scalar.ofNat around.length

/-- The material of a voxel after smoothing, given the ground before. Air stays air. -/
def SmoothingTable.apply (s : SmoothingTable α) (ground : VoxelField Material) (x : Fin width)
    (y : Fin height) (z : Fin width) : Material :=
  let material := ground.value x y z
  if material = .air then .air
  else
    let fraction : α := solidFraction ground x y z
    if s.keepAbove < fraction then material
    else if fraction < s.clearBelow then .air
    else material

end Landform
