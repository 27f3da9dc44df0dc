import Landform.Proofs.Chunk.Hollow

/-! # Topsoil

The default overworld covers its rock with sand by the sea, and elsewhere with grass over dirt. The
bands go by the depth below the surface, and whether a voxel is solid goes by the depth and the
ripple. In a column with a positive ripple the two part: a voxel that is less above the surface than
the ripple is solid, and no band covers it. -/

namespace Landform

open Layout
open scoped Scalar

/-! ## Bands -/

section Bands

variable {α : Type} [Scalar α]

theorem MaterialBands.material_nil (fill : Material) (y : Nat) (depth : α) :
    (⟨[], fill⟩ : MaterialBands α).material y depth = fill := rfl

/-- The first band that covers a voxel decides. -/
theorem MaterialBands.material_cons (band : MaterialBand α) (bands : List (MaterialBand α))
    (fill : Material) (y : Nat) (depth : α) :
    (⟨band :: bands, fill⟩ : MaterialBands α).material y depth =
      if band.covers (Int32.ofNat y) depth then band.material
      else (⟨bands, fill⟩ : MaterialBands α).material y depth := by
  unfold material
  rw [List.find?_cons]
  cases band.covers (Int32.ofNat y) depth <;> rfl

theorem MaterialBand.covers_iff (band : MaterialBand α) {y : Nat} (hy : y < 2 ^ 31) (depth : α) :
    band.covers (Int32.ofNat y) depth = true ↔
      (band.yMin.toInt ≤ y ∧ y < band.yMax.toInt) ∧ band.depthMin ≤ depth ∧
        ∀ max ∈ band.depthMax, depth < max := by
  have hvalue : (Int32.ofNat y).toInt = y := Int32.toInt_ofNat_of_lt hy
  unfold covers
  rw [Bool.and_eq_true, Bool.and_eq_true, Bool.and_eq_true, decide_eq_true_iff,
    decide_eq_true_iff, decide_eq_true_iff, Int32.le_iff_toInt_le, Int32.lt_iff_toInt_lt, hvalue,
    and_assoc, and_assoc, and_assoc]
  refine and_congr_right fun _ => and_congr_right fun _ => and_congr_right fun _ => ?_
  cases band.depthMax with
  | none => simp
  | some max => simp

end Bands

/-- The ground of the default overworld. -/
theorem overworld_material {y : Nat} (hy : y < 2 ^ 31) (depth : ℚ) :
    (DimensionTable.overworld : DimensionTable ℚ).bands.material y depth =
      if depth < 0 then .stone
      else if y < 5 then .bedrock
      else if (58 ≤ y ∧ y < 66) ∧ depth < 4 then .sand
      else if y < 320 ∧ depth < 1 then .grass
      else if y < 320 ∧ depth < 4 then .dirt
      else .stone := by
  have hcovers (low high : Int32) (below : Option ℚ) (m : Material) :
      (⟨low, high, 0, below, m⟩ : MaterialBand ℚ).covers (Int32.ofNat y) depth = true ↔
        (low.toInt ≤ y ∧ y < high.toInt) ∧ 0 ≤ depth ∧ ∀ max ∈ below, depth < max :=
    MaterialBand.covers_iff _ hy depth
  have hzero : (0 : Int32).toInt ≤ y := Int.natCast_nonneg y
  have hbedrock : (y : ℤ) < (5 : Int32).toInt ↔ y < 5 := Int.ofNat_lt
  have hsand : (58 : Int32).toInt ≤ y ∧ (y : ℤ) < (66 : Int32).toInt ↔ 58 ≤ y ∧ y < 66 :=
    and_congr Int.ofNat_le Int.ofNat_lt
  have htop : (y : ℤ) < (320 : Int32).toInt ↔ y < 320 := Int.ofNat_lt
  have hbands : (DimensionTable.overworld : DimensionTable ℚ).bands =
      ⟨[⟨0, 5, 0, none, .bedrock⟩, ⟨58, 66, 0, some 4, .sand⟩, ⟨0, 320, 0, some 1, .grass⟩,
        ⟨0, 320, 0, some 4, .dirt⟩], .stone⟩ := rfl
  rw [hbands]
  simp only [MaterialBands.material_cons, MaterialBands.material_nil, hcovers, hzero, hbedrock,
    hsand, htop, Option.mem_def, Option.some.injEq, forall_eq', reduceCtorEq, false_implies,
    implies_true, and_true, true_and]
  -- every band begins at the surface, so that above it the fill alone is left
  by_cases hdepth : depth < 0
  · simp only [not_le.mpr hdepth, hdepth, and_false, false_and, if_true, if_false]
  · simp only [not_lt.mp hdepth, hdepth, and_true, true_and, if_false]

/-! ## The surface -/

namespace Ground

/-- Carving does not reach the topmost four blocks of the default overworld. -/
theorem overworld_density (key : ChunkKey) {x y z : Nat} {column : ColumnSample ℚ} (hy : y < 320)
    (hdepth : column.height - y < 4) :
    (ofTable DimensionTable.overworld key).density x y z column =
      column.height - y + column.ripple := by
  have hfactor : (ofTable (DimensionTable.overworld : DimensionTable ℚ) key).caveFactor x y z
      column.height = 1 :=
    caveFactor_of_not_reaches rfl fun hreach => hreach.shell hdepth
  rw [density_eq, hfactor, mul_one]
  exact if_neg (Nat.not_le.mpr hy)

/-- In the default overworld, from the bedrock to the ceiling, a solid voxel less than four blocks
deep is less above the surface of its column than the ripple of the column. From the surface down it
is sand by the sea, and elsewhere grass over dirt. Above the surface no band covers it, and it is
stone. -/
theorem overworld_surface (key : ChunkKey) (x y z : Nat) (column : ColumnSample ℚ)
    (hripple : |column.ripple| ≤ 1 / 10) (hbottom : 5 ≤ y) (hceiling : y < 320)
    (hsolid : 0 < (ofTable DimensionTable.overworld key).density x y z column)
    (hdepth : column.height - y < 4) :
    let d : DimensionTable ℚ := .overworld
    let density := (ofTable d key).density x y z column
    (-column.ripple < column.height - y ∧ -(1 / 10) < column.height - y) ∧
      d.bands.classify (decide (0 < density)) y (column.height - y) =
        if column.height - y < 0 then .stone
        else if 58 ≤ y ∧ y < 66 then .sand
        else if column.height - y < 1 then .grass
        else .dirt := by
  intro d density
  have habove : -column.ripple < column.height - y := by
    rw [overworld_density key hceiling hdepth] at hsolid
    linarith
  refine ⟨⟨habove, by linarith [le_of_abs_le hripple]⟩, ?_⟩
  rw [decide_eq_true hsolid, MaterialBands.classify, if_pos rfl, overworld_material (by omega)]
  simp only [hdepth, hceiling, Nat.not_lt.mpr hbottom, and_true, true_and, if_true, if_false]

/-- Half a block below the surface and two blocks below it, on land and by the sea. -/
theorem overworld_surface_layers :
    let d : DimensionTable ℚ := .overworld
    let base (y : Nat) (column : ColumnSample ℚ) :=
      d.bands.classify (decide (0 < (ofTable d ⟨0, 0, 1, .overworld⟩).density 9 y 5 column)) y
        (column.height - y)
    base 100 ⟨201 / 2, -1 / 10⟩ = .grass ∧ base 100 ⟨102, 1 / 10⟩ = .dirt ∧
      base 60 ⟨121 / 2, 0⟩ = .sand := by
  have hgrass := overworld_surface ⟨0, 0, 1, .overworld⟩ 9 100 5 ⟨201 / 2, -1 / 10⟩
    (by decide +kernel) (by decide) (by decide) (by decide +kernel) (by decide +kernel)
  have hdirt := overworld_surface ⟨0, 0, 1, .overworld⟩ 9 100 5 ⟨102, 1 / 10⟩
    (by decide +kernel) (by decide) (by decide) (by decide +kernel) (by decide +kernel)
  have hsand := overworld_surface ⟨0, 0, 1, .overworld⟩ 9 60 5 ⟨121 / 2, 0⟩
    (by decide +kernel) (by decide) (by decide) (by decide +kernel) (by decide +kernel)
  exact ⟨hgrass.2.trans (by decide +kernel), hdirt.2.trans (by decide +kernel),
    hsand.2.trans (by decide +kernel)⟩

/-- In a chunk of the default overworld a voxel is solid that lies above the surface of its column,
by less than a tenth of a block, and it is stone. -/
theorem overworld_surface_bare :
    let key : ChunkKey := ⟨0, 0, 1, .overworld⟩
    let d : DimensionTable ℚ := .overworld
    let column := Site.exactColumn .default key 9 5
    let density := (ofTable d key).density 9 89 5 column
    key.inRange = true ∧ (6 ≤ column.height ∧ column.height ≤ 319) ∧ |column.ripple| ≤ 1 / 10 ∧
      0 < density ∧ column.height - 89 < 0 ∧
      d.bands.classify (decide (0 < density)) 89 (column.height - 89) = .stone := by
  decide +kernel

end Ground

end Landform
