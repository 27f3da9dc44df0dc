import Landform.Proofs.Chunk.Agreement
import Landform.Proofs.Terrain.Rows

/-! # What marked voxels show

Marks are laid over the smoothed ground. A marked voxel shows the first of cave, water, ore and
structure among its marks, where ores and structures come from the rows of two tables. The check of
a table looks at the order of these rows and not at their materials. So the marks of a chunk can be
told from its materials if the rows keep to ores and to structures, and only then: a row may as well
hold air. -/

namespace Landform

open Layout
open scoped Scalar

/-! ## Kinds of materials -/

namespace Material

/-- The material of a vein. -/
def isOre : Material → Bool
  | coalOre | ironOre | goldOre | diamondOre => true
  | _ => false

/-- The material of an anchor. -/
def isStructure : Material → Bool
  | surfaceStructure | midLevelStructure | undergroundStructure => true
  | _ => false

theorem isMark_of_isOre {m : Material} (h : m.isOre = true) : m.isMark = true := by
  cases m <;> first | rfl | cases h

theorem isMark_of_isStructure {m : Material} (h : m.isStructure = true) : m.isMark = true := by
  cases m <;> first | rfl | cases h

theorem isMark_of_isGround {m : Material} (h : m.isGround = true) : m.isMark = false := by
  cases m <;> first | rfl | cases h

theorem ne_air_of_isMark {m : Material} (h : m.isMark = true) : m ≠ .air := by
  rintro rfl
  cases h

end Material

/-! ## Sets of marks -/

/-- The set with the given markers. -/
def Marks.ofFlags (cave ore water structure_ : Bool) : Marks :=
  (if cave then Marker.cave.bit else 0) ||| (if ore then Marker.ore.bit else 0) |||
    (if water then Marker.water.bit else 0) ||| (if structure_ then Marker.structure_.bit else 0)

theorem Marks.has_ofFlags (cave ore water structure_ : Bool) (m : Marker) :
    (ofFlags cave ore water structure_).has m =
      match m with
      | .cave => cave
      | .ore => ore
      | .water => water
      | .structure_ => structure_ := by
  cases m <;> cases cave <;> cases ore <;> cases water <;> cases structure_ <;> rfl

theorem Marks.ofFlags_eq_zero {cave ore water structure_ : Bool} :
    ofFlags cave ore water structure_ = 0 ↔
      cave = false ∧ ore = false ∧ water = false ∧ structure_ = false := by
  cases cave <;> cases ore <;> cases water <;> cases structure_ <;> decide

namespace Marking

/-! ## Rows -/

section Rows

variable {α : Type} (k : Marking α)

theorem oreAt_eq_row (h : k.oreBands ≠ []) (y : Nat) :
    ∃ band ∈ k.oreBands, k.oreAt y = band.ore := by
  obtain ⟨band, hband, hore⟩ := k.oreAt_eq_of_place h y
  exact ⟨band, List.mem_of_getElem? hband, hore⟩

theorem structureAt_eq_row [Scalar α] (h : k.structureBands ≠ []) (depth : α) :
    ∃ band ∈ k.structureBands, k.structureAt depth = band.structure_ := by
  obtain ⟨band, hband, hstructure⟩ := k.structureAt_eq_of_place h depth
  exact ⟨band, List.mem_of_getElem? hband, hstructure⟩

end Rows

/-! ## Marked voxels -/

variable {α : Type} [Scalar α] (k : Marking α)

theorem bitIf_eq (m : Marker) (noise : Option (MarkerNoise α)) (p : Point3 α) :
    bitIf m noise p = if noise.any (·.fires p) then m.bit else 0 := by
  cases noise <;> rfl

/-- A voxel has the marks whose noise fires, and water only below the sea level. -/
theorem sample_eq_ofFlags (p : Point3 α) (y : Nat) :
    k.sample p y =
      .ofFlags (k.cave.any (·.fires p)) (k.ore.any (·.fires p))
        (decide (Int32.ofNat y < k.seaLevel) && k.water.any (·.fires p))
        (k.structure_.any (·.fires p)) := by
  unfold sample Marks.ofFlags
  simp only [bitIf_eq, Bool.and_eq_true, decide_eq_true_eq]
  by_cases hsea : Int32.ofNat y < k.seaLevel
  · simp only [hsea, if_true, true_and]
  · simp only [hsea, if_false, false_and]

theorem compose_zero (ground : Material) (y : Nat) (depth : α) :
    k.compose ground 0 y depth = ground := by
  unfold compose
  split <;> rfl

end Marking

variable {α : Type}

/-- A material that a voxel with these marks may have: that of the first marker which is there, from
any row of the table where there are several. -/
def MarkerTable.Shows (t : MarkerTable α) (marks : Marks) (m : Material) : Prop :=
  if marks.has .cave then m = .cave
  else if marks.has .water then m = .water
  else if marks.has .ore then ∃ band ∈ t.oreBands, m = band.ore
  else ∃ band ∈ t.structureBands, m = band.structure_

/-- A material of the kind that the first of these marks is for. -/
def Marks.Tells (marks : Marks) (m : Material) : Prop :=
  if marks.has .cave then m = .cave
  else if marks.has .water then m = .water
  else if marks.has .ore then m.isOre = true
  else m.isStructure = true

/-- The rows for ores hold ores, and those for structures hold structures. -/
structure MarkerTable.KeepsKinds (t : MarkerTable α) : Prop where
  ores : ∀ band ∈ t.oreBands, band.ore.isOre = true
  structures : ∀ band ∈ t.structureBands, band.structure_.isStructure = true

theorem MarkerTable.Shows.tells {t : MarkerTable α} {marks : Marks} {m : Material}
    (h : t.Shows marks m) (ht : t.KeepsKinds) : marks.Tells m := by
  unfold Shows at h
  unfold Marks.Tells
  split at h
  · rwa [if_pos ‹_›]
  · rw [if_neg ‹_›]
    split at h
    · rwa [if_pos ‹_›]
    · rw [if_neg ‹_›]
      split at h
      · rw [if_pos ‹_›]
        obtain ⟨band, hband, rfl⟩ := h
        exact ht.ores band hband
      · rw [if_neg ‹_›]
        obtain ⟨band, hband, rfl⟩ := h
        exact ht.structures band hband

theorem Marks.Tells.isMark {marks : Marks} {m : Material} (h : marks.Tells m) :
    m.isMark = true := by
  unfold Tells at h
  split at h
  · rw [h]
    rfl
  · split at h
    · rw [h]
      rfl
    · split at h
      · exact Material.isMark_of_isOre h
      · exact Material.isMark_of_isStructure h

/-- Under markers that pass their check, ground that takes marks shows those that it has. -/
theorem Marking.compose_shows [Scalar α] {t : MarkerTable α} {d : Dimension}
    (h : t.check d = .ok ()) (key : ChunkKey) {ground : Material}
    (hground : ground.takesMarks = true) (p : Point3 α) (y : Nat)
    (depth : α) (hmarks : (ofTable t key).sample p y ≠ 0) :
    t.Shows ((ofTable t key).sample p y)
      ((ofTable t key).compose ground ((ofTable t key).sample p y) y depth) := by
  obtain ⟨-, hores, -, hstructures, -⟩ := MarkerTable.check_eq_ok.mp h
  have hsample := (ofTable t key).sample_eq_ofFlags p y
  rw [hsample, Ne, Marks.ofFlags_eq_zero] at hmarks
  unfold MarkerTable.Shows compose
  rw [if_pos hground, hsample]
  simp only [Marks.has_ofFlags]
  split
  · rfl
  · split
    · rfl
    · split
      · -- A marker that is off sets no marks, so there are rows.
        rename_i hore
        refine (ofTable t key).oreAt_eq_row ?_ y
        refine hores.resolve_left fun hnone => ?_
        rw [ofTable, Option.isNone_iff_eq_none.mp hnone] at hore
        cases hore
      · rename_i hcave hwater hore
        have hstructure : (ofTable t key).structure_.any (·.fires p) = true := by
          by_contra hno
          simp only [Bool.not_eq_true] at hcave hwater hore hno
          exact hmarks ⟨hcave, hore, hwater, hno⟩
        rw [if_pos hstructure]
        refine (ofTable t key).structureAt_eq_row ?_ depth
        refine fun hnil => (hstructures.resolve_left fun hnone => ?_) (List.isEmpty_iff.mpr hnil)
        rw [ofTable, Option.isNone_iff_eq_none.mp hnone] at hstructure
        cases hstructure

namespace Generator

variable (g : Generator) (key : ChunkKey)

section Voxels

variable (x : Fin width) (y : Fin height) (z : Fin width)

/-- Before marks are laid over it no voxel shows one. -/
theorem isMark_smoothedAt : (g.smoothedAt key x y z).isMark = false := by
  rcases g.smoothedAt_eq_or_air key x y z with hsame | hair
  · rw [hsame]
    unfold groundAt MaterialBands.classify
    split
    · exact Material.isMark_of_isGround
        (MaterialBands.isGround_material (Table.bands_check g.checked key.dimension) _ _)
    · rfl
  · rw [hair]
    rfl

variable {x y z}

/-- A voxel without marks keeps its ground. -/
theorem materialAt_of_marksAt_eq_zero (h : g.marksAt key x y z = 0) :
    g.materialAt key x y z = g.smoothedAt key x y z := by
  unfold materialAt
  rw [h, Marking.compose_zero]

/-- A voxel with marks shows them. -/
theorem marksAt_shown (h : g.marksAt key x y z ≠ 0) :
    (g.table.dimension key.dimension).markers.Shows (g.marksAt key x y z)
      (g.materialAt key x y z) := by
  have htakes := (g.takesMarks_of_marksAt_ne_zero key h).1
  have hsample : g.marksAt key x y z =
      (g.marking key).sample ((g.ground key).voxelPoint x y z) y := if_pos htakes
  unfold materialAt
  rw [hsample] at h ⊢
  exact Marking.compose_shows (Table.markers_check g.checked key.dimension) key htakes _ _ _ h

end Voxels

/-- The smoothing counter counts the voxels that smoothing has cleared, and besides them those
that hold air under their marks. -/
theorem voxelwise_smoothed_eq_add :
    (g.voxelwise key).diagnostics.smoothed =
      (voxelCount fun x y z => g.groundAt key x y z != .air && g.smoothedAt key x y z == .air) +
        voxelCount fun x y z =>
          g.smoothedAt key x y z != .air && g.materialAt key x y z == .air := by
  rw [voxelwise_smoothed, voxelCount_split
    (p := fun x y z => g.groundAt key x y z != .air && g.smoothedAt key x y z == .air)]
  · refine congrArg _ (voxelCount_congr fun x y z => ?_)
    simp only [bne]
    rcases g.smoothedAt_eq_or_air key x y z with hsame | hair
    · rw [hsame]
      cases g.groundAt key x y z == .air <;> cases g.materialAt key x y z == .air <;> rfl
    · rw [hair]
      cases g.groundAt key x y z == .air <;> cases g.materialAt key x y z == .air <;> rfl
  · intro x y z hcleared
    rw [Bool.and_eq_true, beq_iff_eq] at hcleared ⊢
    have hnone : (g.smoothedAt key x y z).takesMarks = false := by
      rw [hcleared.2]
      rfl
    exact ⟨hcleared.1, (g.materialAt_of_not_takesMarks key x y z hnone).trans hcleared.2⟩

/-- Where the rows keep to their kinds, no voxel holds air under its marks. -/
theorem smoothedAt_eq_air_of_materialAt {g : Generator} {key : ChunkKey}
    (ht : (g.table.dimension key.dimension).markers.KeepsKinds)
    {x : Fin width} {y : Fin height} {z : Fin width} (h : g.materialAt key x y z = .air) :
    g.smoothedAt key x y z = .air := by
  by_cases hmarks : g.marksAt key x y z = 0
  · rw [← g.materialAt_of_marksAt_eq_zero key hmarks, h]
  · have hmark := ((g.marksAt_shown key hmarks).tells ht).isMark
    exact absurd h (Material.ne_air_of_isMark hmark)

/-- In the chunk of a key in range a voxel without marks keeps its smoothed ground, which is none
that marks produce, and a voxel with marks shows the first of cave, water, ore and structure, the
latter two by some row of the table. The smoothing counter counts what smoothing has cleared, and
besides that what holds air under its marks. If the rows keep to their kinds, then exactly the
voxels with marks hold a material of marks, which is of the kind of the first one, only what was
cleared or never solid is air, and the counter counts what smoothing has cleared. -/
theorem marks_told (h : key.inRange = true) :
    ∃ c : Chunk,
      (∀ plan, g.run plan key false = .ok c) ∧ (∀ schedule, g.generate schedule key = .ok c) ∧
      (∀ x y z, c.marks.value x y z = 0 →
        c.material.value x y z = g.smoothedAt key x y z ∧
          (c.material.value x y z).isMark = false) ∧
      (∀ x y z, c.marks.value x y z ≠ 0 →
        (g.table.dimension key.dimension).markers.Shows (c.marks.value x y z)
          (c.material.value x y z)) ∧
      (c.diagnostics.smoothed =
        (voxelCount fun x y z => g.groundAt key x y z != .air && g.smoothedAt key x y z == .air) +
          voxelCount fun x y z =>
            g.smoothedAt key x y z != .air && c.material.value x y z == .air) ∧
      ((g.table.dimension key.dimension).markers.KeepsKinds →
        (∀ x y z,
          ((c.material.value x y z).isMark = true ↔ c.marks.value x y z ≠ 0) ∧
          (c.marks.value x y z ≠ 0 → (c.marks.value x y z).Tells (c.material.value x y z)) ∧
          (c.material.value x y z = .air → g.smoothedAt key x y z = .air)) ∧
        c.diagnostics.smoothed =
          voxelCount fun x y z =>
            g.groundAt key x y z != .air && g.smoothedAt key x y z == .air) := by
  refine ⟨g.voxelwise key, fun plan => g.run_eq_voxelwise key plan h,
    fun schedule => g.run_eq_voxelwise key schedule.plan h, ?_, ?_, ?_, fun ht => ⟨?_, ?_⟩⟩
  · intro x y z hmarks
    rw [voxelwise_marks] at hmarks
    rw [voxelwise_material, g.materialAt_of_marksAt_eq_zero key hmarks]
    exact ⟨rfl, g.isMark_smoothedAt key x y z⟩
  · intro x y z hmarks
    rw [voxelwise_marks] at hmarks ⊢
    rw [voxelwise_material]
    exact g.marksAt_shown key hmarks
  · simp only [voxelwise_material]
    exact g.voxelwise_smoothed_eq_add key
  · intro x y z
    rw [voxelwise_material, voxelwise_marks]
    have htells (hmarks : g.marksAt key x y z ≠ 0) := (g.marksAt_shown key hmarks).tells ht
    refine ⟨⟨fun hmark hzero => ?_, fun hmarks => (htells hmarks).isMark⟩, htells,
      smoothedAt_eq_air_of_materialAt ht⟩
    rw [g.materialAt_of_marksAt_eq_zero key hzero, g.isMark_smoothedAt] at hmark
    cases hmark
  · have hnone : (voxelCount fun x y z =>
        g.smoothedAt key x y z != .air && g.materialAt key x y z == .air) = 0 := by
      refine List.countP_eq_zero.mpr fun i _ hair => ?_
      rw [Bool.and_eq_true, bne_iff_ne, beq_iff_eq] at hair
      exact hair.1 (smoothedAt_eq_air_of_materialAt ht hair.2)
    rw [voxelwise_smoothed_eq_add, hnone, Nat.add_zero]

theorem standard_marks_told :
    (⟨3, -7, 11, .overworld⟩ : ChunkKey).inRange = true ∧
      standard.table.overworld.markers.KeepsKinds ∧
      ∃ c : Chunk, standard.generate .parallel ⟨3, -7, 11, .overworld⟩ = .ok c ∧
        ∀ x y z, (c.material.value x y z).isMark = true ↔ c.marks.value x y z ≠ 0 := by
  have h : (⟨3, -7, 11, .overworld⟩ : ChunkKey).inRange = true := by decide
  have ht : standard.table.overworld.markers.KeepsKinds := ⟨by decide, by decide⟩
  obtain ⟨c, -, hgenerate, -, -, -, htold⟩ := standard.marks_told _ h
  exact ⟨h, ht, c, hgenerate .parallel, fun x y z => ((htold ht).1 x y z).1⟩

/-! ## Air for ore -/

/-- A flat world with ore everywhere, where the only row for ores holds air. -/
def airOresTable : Table Float :=
  { (Table.default : Table Float) with
    overworld :=
      { (DimensionTable.overworld : DimensionTable Float) with
        height := { (HeightProfile.default : HeightProfile Float) with maxHeight := 319 }
        caves := none
        markers :=
          { (MarkerTable.default : MarkerTable Float) with
            ore := some ⟨1, 0.25, -2, 0x41⟩
            oreBands := [⟨OreBand.top, .air⟩] } } }

theorem airOresTable_check : airOresTable.check = .ok () := by
  have h : airOresTable.check.toBool = true := by decide +kernel
  exact check_eq_ok_of_toBool h

/-- The generator of that table. -/
def airOres : Generator := ⟨airOresTable, airOresTable_check⟩

/-- The chunk at the origin of the world without a seed. -/
def originKey : ChunkKey := ⟨0, 0, 0, .overworld⟩

/-- A table with a row that is no ore is accepted. Then a voxel marked as ore can be air although it
is solid after smoothing, and the smoothing counter counts it, which smoothing has not cleared. -/
theorem airOres_not_told :
    airOres.table.check = .ok () ∧ originKey.inRange = true ∧
      ∃ c : Chunk, airOres.generate .parallel originKey = .ok c ∧
        c.marks.value 0 10 0 = Marker.ore.bit ∧ c.material.value 0 10 0 = .air ∧
        airOres.smoothedAt originKey 0 10 0 = .stone ∧
        c.diagnostics.smoothed ≠ voxelCount fun x y z =>
          airOres.groundAt originKey x y z != .air &&
            airOres.smoothedAt originKey x y z == .air := by
  have h : originKey.inRange = true := by decide
  have hsmoothed : airOres.smoothedAt originKey 0 10 0 = .stone := by
    simp only [smoothedAt, SmoothingTable.apply, solidFraction, neighbours, groundField_value]
    decide +kernel
  have hmarks : airOres.marksAt originKey 0 10 0 = Marker.ore.bit := by
    unfold marksAt
    rw [hsmoothed]
    decide +kernel
  have hmaterial : airOres.materialAt originKey 0 10 0 = .air := by
    unfold materialAt
    rw [hsmoothed, hmarks]
    decide +kernel
  refine ⟨airOresTable_check, h, airOres.voxelwise originKey,
    airOres.run_eq_voxelwise _ _ h, ?_, ?_, hsmoothed, ?_⟩
  · rw [voxelwise_marks, hmarks]
  · rw [voxelwise_material, hmaterial]
  · have hpos : 0 < voxelCount fun x y z =>
        airOres.smoothedAt originKey x y z != .air &&
          airOres.materialAt originKey x y z == .air := by
      refine List.countP_pos_iff.mpr ⟨voxel 0 10 0, List.mem_finRange _, ?_⟩
      dsimp only
      rw [voxelX_voxel, voxelY_voxel, voxelZ_voxel, hsmoothed, hmaterial]
      rfl
    rw [voxelwise_smoothed_eq_add]
    omega

end Generator

end Landform
