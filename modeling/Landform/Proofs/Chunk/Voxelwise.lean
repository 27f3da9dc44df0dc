import Landform.Chunk.Generate
import Landform.Proofs.Chunk.Filling
import Landform.Proofs.Request.Range
import Landform.Proofs.Table.Accepted

/-! # Chunks, voxel by voxel

What a chunk holds at a place can be said without stages, plans and buffers: the height and the
biome of a column, the density and the ground of a voxel, and after those the marks and the material
of a voxel as functions of its coordinates alone. Generation in stages leaves the same chunk under
every plan. -/

namespace Landform

open Layout

/-! ## Columns -/

section Columns

variable {α : Type} [Scalar α] [Powers α]

/-- The height of a local column, where the bounds are in order. -/
def Ground.heldHeight (g : Ground α) (x z : Nat) : α :=
  let h := g.rawHeight (g.columnPoint x z)
  if h ≤ h then Scalar.clamp g.minHeight g.maxHeight h else h

theorem Ground.column_eq_ok {g : Ground α} (h : g.minHeight ≤ g.maxHeight) (x z : Nat) :
    g.column x z = .ok ⟨g.heldHeight x z, g.rippleAt x z⟩ := by
  have hheight : g.height x z = .ok (g.heldHeight x z) := by
    unfold height heldHeight
    by_cases hn : g.rawHeight (g.columnPoint x z) ≤ g.rawHeight (g.columnPoint x z)
    · simp only [hn, h, not_true_eq_false, if_true, if_false]
    · simp only [hn, not_false_eq_true, if_true, if_false]
  rw [column, hheight]
  rfl

end Columns

namespace Generator

variable (g : Generator) (key : ChunkKey)

/-- The ground of a key. -/
def ground : Ground Float := .ofTable (g.table.dimension key.dimension) key

/-- The climate of a key. -/
def climate : Climate Float := .ofTable g.table.climate key.seed key.dimension

/-- The markers of a key. -/
def marking : Marking Float := .ofTable (g.table.dimension key.dimension).markers key

/-- The height of a column whose own is not finite: the first finite one of the base, held between
the bounds, and the lower bound. -/
def spareHeight : Float :=
  let h := (g.table.dimension key.dimension).height
  ([Scalar.clamp h.minHeight h.maxHeight h.base, h.minHeight].find? Float.isFinite).getD 0

/-- The height and the ripple of a column. -/
def columnAt (x z : Fin width) : ColumnSample Float :=
  let height := (g.ground key).heldHeight x z
  let ripple := (g.ground key).rippleAt x z
  ⟨if height.isFinite then height else g.spareHeight key, if ripple.isFinite then ripple else 0⟩

/-- The biome of a column. -/
def biomeAt (x z : Fin width) : Biome :=
  (g.climate key).biomeAt ((g.ground key).columnPoint x z)

/-! ## Voxels -/

/-- The density of a voxel in double precision. -/
def preciseDensityAt (x : Fin width) (y : Fin height) (z : Fin width) : Float :=
  (g.ground key).density x y z (g.columnAt key x z)

/-- The density of a voxel: narrowed where it is finite, and zero where it is not. -/
def densityAt (x : Fin width) (y : Fin height) (z : Fin width) : Float32 :=
  if (g.preciseDensityAt key x y z).isFinite then Double.toSingle (g.preciseDensityAt key x y z)
  else 0

/-- The depth of a voxel below the surface of its column. -/
def depthAt (x : Fin width) (y : Fin height) (z : Fin width) : Float :=
  (g.columnAt key x z).height - Scalar.ofNat y

/-- The material of a voxel before smoothing. -/
def groundAt (x : Fin width) (y : Fin height) (z : Fin width) : Material :=
  (g.table.dimension key.dimension).bands.classify (isSolid (g.densityAt key x y z)) y
    (g.depthAt key x y z)

/-- The material of all voxels before smoothing. -/
def groundField : VoxelField Material :=
  .ofFn fun p => g.groundAt key (voxelX p) (voxelY p) (voxelZ p)

/-- The material of a voxel after smoothing. -/
def smoothedAt (x : Fin width) (y : Fin height) (z : Fin width) : Material :=
  g.table.smoothing.apply (g.groundField key) x y z

/-- The marks of a voxel. -/
def marksAt (x : Fin width) (y : Fin height) (z : Fin width) : Marks :=
  if (g.smoothedAt key x y z).takesMarks then
    (g.marking key).sample ((g.ground key).voxelPoint x y z) y
  else 0

/-- The material of a voxel. -/
def materialAt (x : Fin width) (y : Fin height) (z : Fin width) : Material :=
  (g.marking key).compose (g.smoothedAt key x y z) (g.marksAt key x y z) y (g.depthAt key x y z)

/-! ## The chunk -/

/-- How many of the height and the ripple of a column are not finite. -/
def columnAnomalies (x z : Fin width) : Nat :=
  (if ((g.ground key).heldHeight x z).isFinite then 0 else 1) +
    (if ((g.ground key).rippleAt x z).isFinite then 0 else 1)

/-- The number of values that are not finite, over all columns and all voxels. -/
def anomalies : Nat :=
  ((List.finRange area).map fun i => g.columnAnomalies key (columnX i) (columnZ i)).sum +
    ((List.finRange volume).map fun p =>
      if (g.preciseDensityAt key (voxelX p) (voxelY p) (voxelZ p)).isFinite then 0 else 1).sum

/-- The sample and the biome of every column. -/
def columnField : ColumnField ColumnData :=
  .ofFn fun i => ⟨g.columnAt key (columnX i) (columnZ i), g.biomeAt key (columnX i) (columnZ i)⟩

/-- The density of every voxel. -/
def densityField : VoxelField Float32 :=
  .ofFn fun p => g.densityAt key (voxelX p) (voxelY p) (voxelZ p)

/-- The material and the marks of every voxel. -/
def finalField : VoxelField (Material × Marks) :=
  .ofFn fun p => (g.materialAt key (voxelX p) (voxelY p) (voxelZ p),
    g.marksAt key (voxelX p) (voxelY p) (voxelZ p))

/-- The chunk of a key, place by place. -/
def voxelwise : Chunk where
  key := key
  density := g.densityField key
  material := (g.finalField key).map (·.1)
  marks := (g.finalField key).map (·.2)
  biome := (g.columnField key).map (·.biome)
  checksum := Checksum.ofBiomes key ((g.columnField key).map (·.biome)).toList
  diagnostics := .ofFields (g.anomalies key) (g.groundField key) (g.finalField key)

/-! ## Generation in stages -/

/-- What the stages of a key work with. -/
def worksite : Worksite where
  ground := g.ground key
  climate := g.climate key
  marking := g.marking key
  bands := (g.table.dimension key.dimension).bands
  smoothing := g.table.smoothing
  fallbackHeight := g.spareHeight key

/-- What the first stage reads of a column. -/
def columnReading (i : Fin area) : Reading ColumnData :=
  ⟨⟨g.columnAt key (columnX i) (columnZ i), g.biomeAt key (columnX i) (columnZ i)⟩,
    g.columnAnomalies key (columnX i) (columnZ i)⟩

/-- The height bounds of every dimension of an accepted table are finite and in order. -/
theorem bounds_of_checked (d : Dimension) :
    (g.table.dimension d).height.minHeight.isFinite = true ∧
      (g.table.dimension d).height.maxHeight.isFinite = true ∧
      (g.table.dimension d).height.minHeight ≤ (g.table.dimension d).height.maxHeight := by
  have hd := (Table.check_eq_ok.mp g.checked).1 d
  have hh := (DimensionTable.check_eq_ok.mp hd).1
  exact (HeightProfile.check_eq_ok.mp hh).2.2.2

theorem worksite_eq_ok : Worksite.ofTable g.table key = .ok (g.worksite key) := by
  have hle := Table.minHeight_le_maxHeight g.checked key.dimension
  have hspare : Worksite.fallback (g.table.dimension key.dimension).height =
      .ok (g.spareHeight key) := by
    unfold Worksite.fallback spareHeight
    rw [if_pos hle]
    simp only [List.find?_cons, List.find?_nil]
    split
    · rename_i hbase
      simp only [hbase, Option.getD_some]
    · rename_i hbase
      simp only [hbase]
      split
      · rename_i hmin
        simp only [hmin, Option.getD_some]
      · rename_i hmin
        simp only [hmin, Option.getD_none]
  unfold Worksite.ofTable
  simp only [hspare]
  rfl

theorem column_eq_ok (i : Fin area) :
    (g.worksite key).column i = .ok (g.columnReading key i) := by
  have hle := Table.minHeight_le_maxHeight g.checked key.dimension
  have hcolumn := Ground.column_eq_ok (g := g.ground key) hle (columnX i) (columnZ i)
  unfold Worksite.column worksite
  simp only [hcolumn]
  unfold columnReading columnAt columnAnomalies
  simp only [bind, Except.bind, pure, Except.pure, Bool.not_eq_true']
  cases ((g.ground key).heldHeight (columnX i) (columnZ i)).isFinite <;>
    cases ((g.ground key).rippleAt (columnX i) (columnZ i)).isFinite <;> rfl

/-- The first stage fills in the columns. -/
theorem columns_stage (order : UnitOrder area) (blank : ColumnField ColumnData) :
    runColumns order (g.worksite key).column ⟨blank, 0⟩ =
      .ok ⟨g.columnField key,
        ((List.finRange area).map fun i => g.columnAnomalies key (columnX i) (columnZ i)).sum⟩ := by
  rw [runColumns_eq_ok order (g.column_eq_ok key), Filling.ofReadings, Nat.zero_add]
  rfl

theorem columnField_get (x z : Fin width) :
    (g.columnField key).get (column x z) = ⟨g.columnAt key x z, g.biomeAt key x z⟩ := by
  rw [columnField, ofFn_get, columnX_column, columnZ_column]

/-- The second stage fills in the densities. -/
theorem density_stage (order : UnitOrder height) (blank : VoxelField Float32) (count : Nat) :
    runLayers order ((g.worksite key).density (g.columnField key)) ⟨blank, count⟩ =
      ⟨g.densityField key, count + ((List.finRange volume).map fun p =>
        if (g.preciseDensityAt key (voxelX p) (voxelY p) (voxelZ p)).isFinite then 0
        else 1).sum⟩ := by
  have hreading (p : Fin volume) :
      atVoxel ((g.worksite key).density (g.columnField key)) p =
        storedDensity (g.preciseDensityAt key (voxelX p) (voxelY p) (voxelZ p)) := by
    unfold atVoxel Worksite.density
    rw [columnField_get, columnX_column, columnZ_column]
    rfl
  rw [runLayers_eq]
  refine Filling.ext ?_ ?_
  · refine congrArg Vector.ofFn (funext fun p => ?_)
    rw [hreading]
    unfold storedDensity densityAt
    split <;> rfl
  · refine congrArg (count + ·) (congrArg List.sum (List.map_congr_left fun p _ => ?_))
    rw [hreading]
    unfold storedDensity
    split <;> rfl

/-- The third stage fills in the ground. -/
theorem ground_stage (order : UnitOrder height) (blank : VoxelField Material) (count : Nat) :
    (runLayers order ((g.worksite key).groundMaterial (g.columnField key) (g.densityField key))
      ⟨blank, count⟩).field = g.groundField key := by
  rw [runLayers_eq]
  refine congrArg Vector.ofFn (funext fun p => ?_)
  unfold atVoxel Worksite.groundMaterial Worksite.depth densityField
  rw [columnField_get, layerPlace_eq_voxel, columnX_column, columnZ_column, ofFn_get, voxel_coords]
  rfl

/-- The last stage fills in the materials and the marks. -/
theorem final_stage (order : UnitOrder height) (blank : VoxelField (Material × Marks))
    (count : Nat) :
    (runLayers order ((g.worksite key).finish (g.columnField key) (g.groundField key))
      ⟨blank, count⟩).field = g.finalField key := by
  rw [runLayers_eq]
  refine congrArg Vector.ofFn (funext fun p => ?_)
  unfold atVoxel Worksite.finish Worksite.depth Worksite.marksOf
  rw [columnField_get, columnX_column, columnZ_column]
  unfold materialAt marksAt depthAt smoothedAt worksite
  rfl

/-- Under every plan the stages leave the chunk that has been said place by place. -/
theorem run_eq_voxelwise (plan : Plan) (h : key.inRange = true) :
    g.run plan key false = .ok (g.voxelwise key) := by
  unfold run
  rw [ChunkKey.check_of_inRange h, worksite_eq_ok]
  simp only [bind, Except.bind, Bool.false_eq_true, if_false, pure, Except.pure, columns_stage,
    density_stage, ground_stage, final_stage]
  rfl

variable {key} in
/-- Whether a key is in range is asked before whether the request is withdrawn. -/
theorem run_of_not_inRange (plan : Plan) (h : key.inRange = false) (cancelled : Bool) :
    g.run plan key cancelled = .error (.outOfRange key.x key.z) := by
  unfold run
  rw [ChunkKey.check_of_not_inRange h]
  rfl

variable {key} in
theorem run_cancelled (plan : Plan) (h : key.inRange = true) :
    g.run plan key true = .error .cancelled := by
  unfold run
  rw [ChunkKey.check_of_inRange h]
  rfl

/-! ## What a generated chunk holds -/

theorem voxelwise_density (x : Fin width) (y : Fin height) (z : Fin width) :
    (g.voxelwise key).density.value x y z = g.densityAt key x y z := by
  change (g.densityField key).get (voxel x y z) = _
  rw [densityField, ofFn_get, voxelX_voxel, voxelY_voxel, voxelZ_voxel]

theorem finalField_get (x : Fin width) (y : Fin height) (z : Fin width) :
    (g.finalField key).get (voxel x y z) = (g.materialAt key x y z, g.marksAt key x y z) := by
  rw [finalField, ofFn_get, voxelX_voxel, voxelY_voxel, voxelZ_voxel]

theorem voxelwise_material (x : Fin width) (y : Fin height) (z : Fin width) :
    (g.voxelwise key).material.value x y z = g.materialAt key x y z := by
  change ((g.finalField key).map (·.1)).get (voxel x y z) = _
  rw [map_get, finalField_get]

theorem voxelwise_marks (x : Fin width) (y : Fin height) (z : Fin width) :
    (g.voxelwise key).marks.value x y z = g.marksAt key x y z := by
  change ((g.finalField key).map (·.2)).get (voxel x y z) = _
  rw [map_get, finalField_get]

theorem voxelwise_biome (x z : Fin width) :
    (g.voxelwise key).biome.value x z = g.biomeAt key x z := by
  change ((g.columnField key).map (·.biome)).get (column x z) = _
  rw [map_get, columnField_get]

/-- A key in range has one chunk, under every schedule and in every order of the units of every
stage. Its fields are those of its columns and voxels, where the smoothing looks at the ground of
the whole chunk, and its checksum is that of its biomes. -/
theorem generate_voxelwise (h : key.inRange = true) :
    ∃ c : Chunk,
      (∀ plan, g.run plan key false = .ok c) ∧
      (∀ schedule, g.generate schedule key = .ok c) ∧
      c.key = key ∧
      (∀ x y z, c.density.value x y z = g.densityAt key x y z) ∧
      (∀ x y z, c.marks.value x y z = g.marksAt key x y z ∧
        c.material.value x y z = g.materialAt key x y z) ∧
      (∀ x z, c.biome.value x z = g.biomeAt key x z) ∧
      c.checksum = Checksum.ofBiomes key c.biome.toList ∧
      c.diagnostics = .ofFields (g.anomalies key) (g.groundField key) (g.finalField key) := by
  refine ⟨g.voxelwise key, fun plan => g.run_eq_voxelwise key plan h,
    fun schedule => g.run_eq_voxelwise key schedule.plan h, rfl, g.voxelwise_density key,
    fun x y z => ⟨?_, ?_⟩, g.voxelwise_biome key, rfl, rfl⟩
  · exact g.voxelwise_marks key x y z
  · exact g.voxelwise_material key x y z

/-- The generator of the default table. -/
def standard : Generator := ⟨.default, Table.check_default⟩

theorem standard_generate_voxelwise :
    (⟨3, -7, 11, .overworld⟩ : ChunkKey).inRange = true ∧
      ∃ c : Chunk, (∀ plan, standard.run plan ⟨3, -7, 11, .overworld⟩ false = .ok c) ∧
        ∀ x y z, c.material.value x y z = standard.materialAt ⟨3, -7, 11, .overworld⟩ x y z := by
  have h : (⟨3, -7, 11, .overworld⟩ : ChunkKey).inRange = true := by decide
  obtain ⟨c, hrun, -, -, -, hvoxel, -⟩ := standard.generate_voxelwise _ h
  exact ⟨h, c, hrun, fun x y z => (hvoxel x y z).2⟩

end Generator

end Landform
