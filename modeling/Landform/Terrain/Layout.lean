/-! # The layout of a chunk

A chunk is 16 columns wide along x and along z and 384 voxels high. Voxels are numbered layer by
layer from the bottom, a layer is numbered row by row along z, and a row runs along x. -/

namespace Landform

namespace Layout

/-- Columns along x, and along z. -/
abbrev width : Nat := 16

/-- Voxels in a column. -/
abbrev height : Nat := 384

/-- Columns in a chunk, and voxels in a layer. -/
abbrev area : Nat := 256

/-- Voxels in a chunk. -/
abbrev volume : Nat := 98304

/-- The number of a voxel. -/
def voxelIndex (x y z : Nat) : Nat := y * area + z * width + x

/-- The coordinates `x`, `y` and `z` of the voxel with the given number. -/
def voxelCoords (i : Nat) : Nat × Nat × Nat := (i % area % width, i / area, i % area / width)

/-- The number of a column. -/
def columnIndex (x z : Nat) : Nat := z * width + x

/-- The coordinates `x` and `z` of the column with the given number. -/
def columnCoords (i : Nat) : Nat × Nat := (i % width, i / width)

theorem voxelIndex_lt (x : Fin width) (y : Fin height) (z : Fin width) :
    voxelIndex x y z < volume := by
  have := x.isLt; have := y.isLt; have := z.isLt
  simp only [voxelIndex, width, height, area, volume] at *
  omega

theorem columnIndex_lt (x z : Fin width) : columnIndex x z < area := by
  have := x.isLt; have := z.isLt
  simp only [columnIndex, width, area] at *
  omega

/-- The x coordinate of a voxel. -/
@[inline]
def voxelX (i : Fin volume) : Fin width := ⟨i % area % width, Nat.mod_lt _ (by decide)⟩

/-- The y coordinate of a voxel. -/
@[inline]
def voxelY (i : Fin volume) : Fin height := ⟨i / area, Nat.div_lt_of_lt_mul i.isLt⟩

/-- The z coordinate of a voxel. -/
@[inline]
def voxelZ (i : Fin volume) : Fin width :=
  ⟨i % area / width, Nat.div_lt_of_lt_mul (Nat.mod_lt _ (by decide))⟩

/-- The x coordinate of a column. -/
@[inline]
def columnX (i : Fin area) : Fin width := ⟨i % width, Nat.mod_lt _ (by decide)⟩

/-- The z coordinate of a column. -/
@[inline]
def columnZ (i : Fin area) : Fin width := ⟨i / width, Nat.div_lt_of_lt_mul i.isLt⟩

/-- The number of a voxel of the chunk. -/
@[inline]
def voxel (x : Fin width) (y : Fin height) (z : Fin width) : Fin volume :=
  ⟨voxelIndex x y z, voxelIndex_lt x y z⟩

/-- The number of a column of the chunk. -/
@[inline]
def column (x z : Fin width) : Fin area := ⟨columnIndex x z, columnIndex_lt x z⟩

/-- The number of the voxel at place `i` of the layer at height `y`. -/
@[inline]
def layerPlace (y : Fin height) (i : Fin area) : Fin volume :=
  ⟨y * area + i, by
    have := y.isLt; have := i.isLt
    simp only [height, area, volume] at *
    omega⟩

section Coordinates

variable (x z : Fin width) (y : Fin height)

@[simp] theorem voxelX_voxel : voxelX (voxel x y z) = x := by
  have := x.isLt; have := z.isLt
  ext; simp only [voxelX, voxel, voxelIndex, width, area] at *; omega

@[simp] theorem voxelY_voxel : voxelY (voxel x y z) = y := by
  have := x.isLt; have := z.isLt
  ext; simp only [voxelY, voxel, voxelIndex, width, area] at *; omega

@[simp] theorem voxelZ_voxel : voxelZ (voxel x y z) = z := by
  have := x.isLt; have := z.isLt
  ext; simp only [voxelZ, voxel, voxelIndex, width, area] at *; omega

@[simp] theorem columnX_column : columnX (column x z) = x := by
  have := x.isLt
  ext; simp only [columnX, column, columnIndex, width] at *; omega

@[simp] theorem columnZ_column : columnZ (column x z) = z := by
  have := x.isLt
  ext; simp only [columnZ, column, columnIndex, width] at *; omega

end Coordinates

@[simp] theorem voxel_coords (i : Fin volume) : voxel (voxelX i) (voxelY i) (voxelZ i) = i := by
  ext; simp only [voxelX, voxelY, voxelZ, voxel, voxelIndex, width, area]; omega

/-- A layer lists its voxels as a chunk lists its columns. -/
theorem layerPlace_eq_voxel (y : Fin height) (i : Fin area) :
    layerPlace y i = voxel (columnX i) y (columnZ i) := by
  ext; simp only [layerPlace, voxel, voxelIndex, columnX, columnZ, width, area]; omega

@[simp] theorem column_coords (i : Fin area) : column (columnX i) (columnZ i) = i := by
  ext; simp only [columnX, columnZ, column, columnIndex, width]; omega

end Layout

open Layout

/-! ## Fields -/

/-- A value for every voxel of a chunk, in the order of their numbers. -/
abbrev VoxelField (β : Type) : Type := Vector β volume

/-- A value for every column of a chunk, in the order of their numbers. -/
abbrev ColumnField (β : Type) : Type := Vector β area

/-- The value of a voxel. -/
@[inline]
def VoxelField.value {β : Type} (f : VoxelField β) (x : Fin width) (y : Fin height)
    (z : Fin width) : β :=
  f.get (voxel x y z)

/-- The value of a column. -/
@[inline]
def ColumnField.value {β : Type} (f : ColumnField β) (x z : Fin width) : β := f.get (column x z)

end Landform
