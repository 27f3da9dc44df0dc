import Landform.Biome
import Landform.Material
import Landform.Request
import Landform.Terrain.Layout

/-! # Chunks

What is generated for a key. -/

namespace Landform

open Layout

/-- Counters of one generation. -/
structure Diagnostics where
  /-- Values that were not finite and have been replaced. -/
  anomalies : Nat
  /-- Solid voxels before smoothing. -/
  solid : Nat
  /-- Solid voxels that became air. -/
  smoothed : Nat
  caves : Nat
  ores : Nat
  waters : Nat
  structures : Nat
  deriving DecidableEq, Repr, Inhabited

/-- A generated chunk. -/
structure Chunk where
  key : ChunkKey
  /-- Positive where a voxel is solid. -/
  density : VoxelField Float32
  material : VoxelField Material
  /-- The marks of every voxel, whichever of them its material shows. -/
  marks : VoxelField Marks
  biome : ColumnField Biome
  checksum : UInt32
  diagnostics : Diagnostics

/-- The number of columns of each biome, in the order of the codes. Every column is counted under
its code, if there is a place for it. -/
def Chunk.biomeHistogram (c : Chunk) : List Nat :=
  c.biome.toList.foldl (fun counts b => counts.modify b.code.toNat (· + 1))
    (List.replicate Biome.all.length 0)

end Landform
