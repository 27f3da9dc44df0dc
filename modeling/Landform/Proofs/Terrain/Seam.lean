import Landform.Proofs.Number.Integer
import Landform.Terrain.Climate
import Landform.Terrain.Marking

/-! # Seams

The ground of a place depends on where in the world the place is, and not on the chunk from which
it is counted. So chunks continue each other: a column beyond the border of one is a column of the
next, with the same height, caves, biome and marks.

Places are computed in doubles, as the corner of the chunk, the offset of the world and the local
coordinate, one after the other. All of these are integers, so that no sum is rounded and the place
is the same double whichever corner it starts from. -/

namespace Landform

open scoped Scalar

/-! ## Coordinates -/

namespace ChunkKey

/-- The block coordinate along x of a local column, which may lie beyond the border. -/
def worldX (k : ChunkKey) (x : ℕ) : ℤ := k.blockOrigin.1 + x

/-- The block coordinate along z of a local column. -/
def worldZ (k : ChunkKey) (z : ℕ) : ℤ := k.blockOrigin.2 + z

/-- The key of the next chunk along x. -/
def nextX (k : ChunkKey) : ChunkKey := { k with x := k.x + 1 }

/-- The key of the next chunk along z. -/
def nextZ (k : ChunkKey) : ChunkKey := { k with z := k.z + 1 }

/-- A sum that is in range has not been wrapped around. -/
theorem toInt_add_one {c : Int32} (h : coordinateInRange (c + 1) = true) :
    (c + 1).toInt = c.toInt + 1 := by
  have hleast := c.le_toInt
  have hone : (1 : Int32).toInt = 1 := by decide
  have hadd := c.toInt_add 1
  rw [hone] at hadd
  have hrange : -134217727 ≤ (c + 1).toInt := by
    simp only [coordinateInRange, Bool.and_eq_true, decide_eq_true_eq] at h
    exact Int32.le_iff_toInt_le.mp h.1
  rcases (Int.add_one_le_of_lt c.toInt_lt).eq_or_lt with hlast | hlt
  · -- the sum would be the least number of 32 bits
    rw [hadd, hlast] at hrange
    exact absurd hrange (by decide)
  · rw [hadd]
    exact Int.bmod_eq_of_le (by omega) (by omega)

theorem worldX_nextX {k : ChunkKey} (h : k.nextX.inRange = true) (x : ℕ) :
    k.worldX (x + 16) = k.nextX.worldX x := by
  have hnext := toInt_add_one (Bool.and_eq_true_iff.mp h).1
  simp only [worldX, blockOrigin, nextX, hnext]
  push_cast
  ring

theorem worldZ_nextZ {k : ChunkKey} (h : k.nextZ.inRange = true) (z : ℕ) :
    k.worldZ (z + 16) = k.nextZ.worldZ z := by
  have hnext := toInt_add_one (Bool.and_eq_true_iff.mp h).2
  simp only [worldZ, blockOrigin, nextZ, hnext]
  push_cast
  ring

end ChunkKey

/-! ## Places -/

theorem WorldOffset.natAbs_ofWord_le (w : UInt32) : (ofWord w).natAbs ≤ 2 ^ 20 := by
  have hshift : (w >>> 11).toNat = w.toNat / 2 ^ 11 := by
    rw [UInt32.toNat_shiftRight, Nat.shiftRight_eq_div_pow]
    rfl
  have hlt := w.toNat_lt
  simp only [ofWord, span, hshift]
  omega

/-- The offsets of a world are made from words, none of which is special. -/
theorem WorldOffset.exists_words (seed : UInt64) :
    ∃ a b c d e, ofSeed seed = ⟨ofWord a, ofWord b, ofWord c, ofWord d, ofWord e⟩ := by
  unfold ofSeed
  split
  -- without a keystream every offset is zero, which is the offset of the middle word
  · exact ⟨_, _, _, _, _, rfl⟩
  · exact ⟨0x80000000, 0x80000000, 0x80000000, 0x80000000, 0x80000000, by decide⟩

/-- A place along one axis is the double of an integer. -/
theorem place_eq (c : Int32) (w : UInt32) {x : ℕ} (hx : x < 2 ^ 52) :
    Float.ofInt (c.toInt * 16) + Float.ofInt (WorldOffset.ofWord w) + Float.ofNat x =
      Float.ofInt (c.toInt * 16 + x + WorldOffset.ofWord w) := by
  have hc := c.toInt_lt
  have hc' := c.le_toInt
  have hw := WorldOffset.natAbs_ofWord_le w
  -- a local coordinate is a numeral, which is the double of a natural number
  change _ + Float.ofInt (x : ℤ) = _
  rw [ofInt_add (by omega) (by omega) (by omega), ofInt_add (by omega) (by omega) (by omega)]
  congr 1
  ring

/-- A place along one axis of space, which is moved once more. -/
theorem place_add (c : Int32) (w v : UInt32) {x : ℕ} (hx : x < 2 ^ 52) :
    Float.ofInt (c.toInt * 16) + Float.ofInt (WorldOffset.ofWord w) + Float.ofNat x +
        Float.ofInt (WorldOffset.ofWord v) =
      Float.ofInt (c.toInt * 16 + x + WorldOffset.ofWord w + WorldOffset.ofWord v) := by
  have hc := c.toInt_lt
  have hc' := c.le_toInt
  have hw := WorldOffset.natAbs_ofWord_le w
  have hv := WorldOffset.natAbs_ofWord_le v
  rw [place_eq c w hx, ofInt_add (by omega) (by omega) (by omega)]

section Points

variable (t : DimensionTable Float) (k : ChunkKey) {x z : ℕ}

/-- The point of a column is its place in the world, moved by the offset of the world. -/
theorem columnPoint_eq (hx : x < 2 ^ 52) (hz : z < 2 ^ 52) :
    (Ground.ofTable t k).columnPoint x z =
      ⟨Float.ofInt (k.worldX x + (WorldOffset.ofSeed k.seed).columnX),
        Float.ofInt (k.worldZ z + (WorldOffset.ofSeed k.seed).columnZ)⟩ := by
  obtain ⟨a, b, c, d, e, hoffset⟩ := WorldOffset.exists_words k.seed
  -- one axis at a time
  have hplaceX := place_eq k.x a hx
  have hplaceZ := place_eq k.z b hz
  simp only [Ground.columnPoint, Ground.ofTable, ChunkKey.worldX, ChunkKey.worldZ,
    ChunkKey.blockOrigin, hoffset]
  exact congrArg₂ Point2.mk hplaceX hplaceZ

/-- The point of a voxel is its place in the world, moved by both offsets. -/
theorem voxelPoint_eq (hx : x < 2 ^ 52) (hz : z < 2 ^ 52) (y : ℕ) :
    (Ground.ofTable t k).voxelPoint x y z =
      ⟨Float.ofInt (k.worldX x + (WorldOffset.ofSeed k.seed).columnX +
          (WorldOffset.ofSeed k.seed).volumeX),
        Float.ofNat y + Float.ofInt (WorldOffset.ofSeed k.seed).volumeY,
        Float.ofInt (k.worldZ z + (WorldOffset.ofSeed k.seed).columnZ +
          (WorldOffset.ofSeed k.seed).volumeZ)⟩ := by
  obtain ⟨a, b, c, d, e, hoffset⟩ := WorldOffset.exists_words k.seed
  have hplaceX := place_add k.x a c hx
  have hplaceZ := place_add k.z b e hz
  simp only [Ground.voxelPoint, Ground.ofTable, ChunkKey.worldX, ChunkKey.worldZ,
    ChunkKey.blockOrigin, hoffset]
  exact congrArg₂ (Point3.mk · _ ·) hplaceX hplaceZ

end Points

/-! ## Moving the corner -/

namespace Ground

section Moved

variable {α : Type} [Scalar α] (g : Ground α) {o : Point2 α} {x z x' z' : ℕ}

/-- The same ground counted from another corner. -/
def moved (g : Ground α) (o : Point2 α) : Ground α := { g with origin := o }

/-- A ground is the same for all keys of one world and one dimension, up to the corner. -/
theorem moved_ofTable (t : DimensionTable α) {k k' : ChunkKey} (hseed : k.seed = k'.seed)
    (hdimension : k.dimension = k'.dimension) :
    (ofTable t k).moved (ofTable t k').origin = ofTable t k' := by
  obtain ⟨x, z, seed, dimension⟩ := k
  obtain ⟨x', z', seed', dimension'⟩ := k'
  subst hseed hdimension
  rfl

section Columns

variable (hpoint : g.columnPoint x z = (g.moved o).columnPoint x' z')
include hpoint

theorem height_moved [Powers α] : g.height x z = (g.moved o).height x' z' := by
  unfold height
  rw [hpoint]
  rfl

theorem rippleAt_moved : g.rippleAt x z = (g.moved o).rippleAt x' z' := by
  unfold rippleAt
  rw [hpoint]
  rfl

theorem column_moved [Powers α] : g.column x z = (g.moved o).column x' z' := by
  unfold column
  rw [g.height_moved hpoint, g.rippleAt_moved hpoint]

end Columns

section Voxels

variable {y : ℕ} (hpoint : g.voxelPoint x y z = (g.moved o).voxelPoint x' y z')
include hpoint

theorem caveFactor_moved (height : α) :
    g.caveFactor x y z height = (g.moved o).caveFactor x' y z' height := by
  unfold caveFactor
  rw [hpoint]
  rfl

theorem density_moved (column : ColumnSample α) :
    g.density x y z column = (g.moved o).density x' y z' column := by
  unfold density
  rw [g.caveFactor_moved hpoint]
  rfl

end Voxels

end Moved

end Ground

/-! ## Columns of one place -/

/-- Two local columns, each of a chunk of its own, cannot be told apart by anything that is
computed for them. -/
structure SameColumn (t : Table Float) (k : ChunkKey) (x z : ℕ) (k' : ChunkKey) (x' z' : ℕ) :
    Prop where
  columnPoint : (Ground.ofTable (t.dimension k.dimension) k).columnPoint x z =
    (Ground.ofTable (t.dimension k'.dimension) k').columnPoint x' z'
  voxelPoint (y : ℕ) : (Ground.ofTable (t.dimension k.dimension) k).voxelPoint x y z =
    (Ground.ofTable (t.dimension k'.dimension) k').voxelPoint x' y z'
  height : (Ground.ofTable (t.dimension k.dimension) k).height x z =
    (Ground.ofTable (t.dimension k'.dimension) k').height x' z'
  ripple : (Ground.ofTable (t.dimension k.dimension) k).rippleAt x z =
    (Ground.ofTable (t.dimension k'.dimension) k').rippleAt x' z'
  column : (Ground.ofTable (t.dimension k.dimension) k).column x z =
    (Ground.ofTable (t.dimension k'.dimension) k').column x' z'
  caveFactor (y : ℕ) (height : Float) :
    (Ground.ofTable (t.dimension k.dimension) k).caveFactor x y z height =
      (Ground.ofTable (t.dimension k'.dimension) k').caveFactor x' y z' height
  density (y : ℕ) (column : ColumnSample Float) :
    (Ground.ofTable (t.dimension k.dimension) k).density x y z column =
      (Ground.ofTable (t.dimension k'.dimension) k').density x' y z' column
  biome : (Climate.ofTable t.climate k.seed k.dimension).biomeAt
      ((Ground.ofTable (t.dimension k.dimension) k).columnPoint x z) =
    (Climate.ofTable t.climate k'.seed k'.dimension).biomeAt
      ((Ground.ofTable (t.dimension k'.dimension) k').columnPoint x' z')
  marks (y : ℕ) : (Marking.ofTable (t.dimension k.dimension).markers k).sample
      ((Ground.ofTable (t.dimension k.dimension) k).voxelPoint x y z) y =
    (Marking.ofTable (t.dimension k'.dimension).markers k').sample
      ((Ground.ofTable (t.dimension k'.dimension) k').voxelPoint x' y z') y

/-- The markers are the same for all keys of one world and one dimension. -/
theorem Marking.ofTable_congr (t : MarkerTable Float) {k k' : ChunkKey} (hseed : k.seed = k'.seed)
    (hdimension : k.dimension = k'.dimension) : ofTable t k = ofTable t k' := by
  simp only [ofTable, MarkerChannel.noise, hseed, hdimension]

/-- Columns of one world and one dimension that are at one place. -/
theorem sameColumn_of_world (t : Table Float) {k k' : ChunkKey} {x z x' z' : ℕ}
    (hseed : k.seed = k'.seed) (hdimension : k.dimension = k'.dimension)
    (hx : x < 2 ^ 52) (hz : z < 2 ^ 52) (hx' : x' < 2 ^ 52) (hz' : z' < 2 ^ 52)
    (hworldX : k.worldX x = k'.worldX x') (hworldZ : k.worldZ z = k'.worldZ z') :
    SameColumn t k x z k' x' z' := by
  have hcolumn : (Ground.ofTable (t.dimension k.dimension) k).columnPoint x z =
      (Ground.ofTable (t.dimension k'.dimension) k').columnPoint x' z' := by
    rw [columnPoint_eq _ _ hx hz, columnPoint_eq _ _ hx' hz', hseed, hworldX, hworldZ]
  have hvoxel (y : ℕ) : (Ground.ofTable (t.dimension k.dimension) k).voxelPoint x y z =
      (Ground.ofTable (t.dimension k'.dimension) k').voxelPoint x' y z' := by
    rw [voxelPoint_eq _ _ hx hz, voxelPoint_eq _ _ hx' hz', hseed, hworldX, hworldZ]
  -- the grounds differ in nothing but the corner, which only the points read
  have hmoved := Ground.moved_ofTable (t.dimension k.dimension) hseed hdimension
  rw [← hdimension] at hcolumn hvoxel
  rw [← hmoved] at hcolumn hvoxel
  exact
    { columnPoint := by rw [hcolumn, hmoved, hdimension]
      voxelPoint := by
        intro y
        rw [hvoxel, hmoved, hdimension]
      height := by rw [Ground.height_moved _ hcolumn, hmoved, hdimension]
      ripple := by rw [Ground.rippleAt_moved _ hcolumn, hmoved, hdimension]
      column := by rw [Ground.column_moved _ hcolumn, hmoved, hdimension]
      caveFactor := by
        intro y height
        rw [Ground.caveFactor_moved _ (hvoxel y), hmoved, hdimension]
      density := by
        intro y column
        rw [Ground.density_moved _ (hvoxel y), hmoved, hdimension]
      biome := by rw [hcolumn, hmoved, hdimension, hseed]
      marks := by
        intro y
        rw [hvoxel, hmoved, hdimension, Marking.ofTable_congr _ hseed hdimension] }

/-- Chunks continue each other. Whatever the table, what a chunk would compute beyond its border
along x or along z is what the next chunk computes, as long as there is a next chunk. -/
theorem sameColumn_beyond_border (t : Table Float) (k : ChunkKey) {x z : ℕ}
    (hx : x + 16 < 2 ^ 52) (hz : z + 16 < 2 ^ 52) :
    (k.nextX.inRange = true → SameColumn t k (x + 16) z k.nextX x z) ∧
      (k.nextZ.inRange = true → SameColumn t k x (z + 16) k.nextZ x z) := by
  constructor
  · intro hnext
    exact sameColumn_of_world t rfl rfl hx (by omega) (by omega) (by omega)
      (ChunkKey.worldX_nextX hnext x) rfl
  · intro hnext
    exact sameColumn_of_world t rfl rfl (by omega) hz (by omega) (by omega) rfl
      (ChunkKey.worldZ_nextZ hnext z)

/-- The last chunk but one along x, with a negative coordinate along z. -/
theorem sameColumn_beyond_far_border :
    (⟨134217725, -3, 11, .nether⟩ : ChunkKey).nextX.inRange = true ∧
      (⟨134217725, -3, 11, .nether⟩ : ChunkKey).nextZ.inRange = true ∧
      SameColumn .default ⟨134217725, -3, 11, .nether⟩ 21 9 ⟨134217726, -3, 11, .nether⟩ 5 9 ∧
      SameColumn .default ⟨134217725, -3, 11, .nether⟩ 5 25 ⟨134217725, -2, 11, .nether⟩ 5 9 := by
  have hX : (⟨134217725, -3, 11, .nether⟩ : ChunkKey).nextX.inRange = true := by decide
  have hZ : (⟨134217725, -3, 11, .nether⟩ : ChunkKey).nextZ.inRange = true := by decide
  have hborder := sameColumn_beyond_border Table.default ⟨134217725, -3, 11, .nether⟩
    (x := 5) (z := 9) (by norm_num) (by norm_num)
  exact ⟨hX, hZ, hborder.1 hX, hborder.2 hZ⟩

end Landform
