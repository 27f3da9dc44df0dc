import Landform.Chunk.Stage
import Mathlib.Algebra.BigOperators.Group.List.Basic
import Mathlib.Algebra.GroupWithZero.Nat
import Mathlib.Data.List.FinRange

/-! # What a stage leaves behind

The units of a stage write every place of its field once, each with a reading that depends on the
place alone. So the field and the counter at the end are the same for every order of the units. -/

namespace Landform

open Layout

attribute [ext] Filling

theorem UnitOrder.nodup {n : Nat} (order : UnitOrder n) : order.units.Nodup :=
  order.complete.nodup_iff.mpr (List.nodup_finRange n)

theorem UnitOrder.mem_units {n : Nat} (order : UnitOrder n) (i : Fin n) : i ∈ order.units :=
  order.complete.mem_iff.mpr (List.mem_finRange i)

theorem ofFn_get {β : Type} {n : Nat} (f : Fin n → β) (i : Fin n) :
    (Vector.ofFn f).get i = f i :=
  Vector.getElem_ofFn i.isLt

theorem map_get {β γ : Type} {n : Nat} (f : β → γ) (v : Vector β n) (i : Fin n) :
    (v.map f).get i = f (v.get i) :=
  Vector.getElem_map f i.isLt

/-! ## Writing many places -/

namespace Filling

variable {β : Type} {n : Nat}

/-- Writes the given places, each with its own reading. -/
def writeAll (reading : Fin n → Reading β) (f : Filling β n) (places : List (Fin n)) :
    Filling β n :=
  places.foldl (fun f p => f.write p (reading p)) f

/-- The field in which every place holds its reading, and the counter raised by all of them. -/
def ofReadings (reading : Fin n → Reading β) (start : Nat) : Filling β n where
  field := .ofFn fun p => (reading p).value
  anomalies := start + ((List.finRange n).map fun p => (reading p).anomalies).sum

theorem write_get (f : Filling β n) (p q : Fin n) (r : Reading β) :
    (f.write p r).field.get q = if p = q then r.value else f.field.get q := by
  change (f.field.set p r.value)[q.val] = if p = q then r.value else f.field[q.val]
  rw [Vector.getElem_set]
  simp only [Fin.ext_iff]

theorem writeAll_anomalies (reading : Fin n → Reading β) (f : Filling β n)
    (places : List (Fin n)) :
    (f.writeAll reading places).anomalies =
      f.anomalies + (places.map fun p => (reading p).anomalies).sum := by
  induction places generalizing f with
  | nil => rfl
  | cons p places ih =>
    have h := ih (f.write p (reading p))
    simp only [writeAll, List.foldl_cons, List.map_cons, List.sum_cons] at h ⊢
    rw [h]
    simp only [write]
    omega

/-- A place that has been written keeps its reading, since every later write to it is the same. -/
theorem writeAll_get_of_eq (reading : Fin n → Reading β) (f : Filling β n)
    (places : List (Fin n)) (p : Fin n) (h : f.field.get p = (reading p).value) :
    (f.writeAll reading places).field.get p = (reading p).value := by
  induction places generalizing f with
  | nil => exact h
  | cons q places ih =>
    refine ih (f.write q (reading q)) ?_
    rw [write_get]
    split
    · rename_i hq
      rw [hq]
    · exact h

theorem writeAll_get (reading : Fin n → Reading β) (f : Filling β n) (places : List (Fin n))
    {p : Fin n} (hp : p ∈ places) :
    (f.writeAll reading places).field.get p = (reading p).value := by
  induction places generalizing f with
  | nil => cases hp
  | cons q places ih =>
    rcases List.mem_cons.mp hp with rfl | hp
    · exact writeAll_get_of_eq reading _ places p (by rw [write_get, if_pos rfl])
    · exact ih (f.write q (reading q)) hp

/-- Writing every place once fills the field, whatever it held before. -/
theorem writeAll_of_perm (reading : Fin n → Reading β) (f : Filling β n)
    {places : List (Fin n)} (h : places.Perm (List.finRange n)) :
    f.writeAll reading places = ofReadings reading f.anomalies := by
  have hfield : (f.writeAll reading places).field = (ofReadings reading f.anomalies).field := by
    ext i hi
    have hmem : (⟨i, hi⟩ : Fin n) ∈ places := h.mem_iff.mpr (List.mem_finRange _)
    rw [ofReadings, Vector.getElem_ofFn]
    exact writeAll_get reading f places hmem
  have hcount : (f.writeAll reading places).anomalies =
      (ofReadings reading f.anomalies).anomalies := by
    rw [writeAll_anomalies, ofReadings]
    exact congrArg _ (h.map _).sum_eq
  exact Filling.ext hfield hcount

end Filling

variable {β : Type}

/-! ## Stages over the columns -/

theorem foldlM_write {ε : Type} {n : Nat} {unit : Fin n → Except ε (Reading β)}
    {reading : Fin n → Reading β} (h : ∀ i, unit i = .ok (reading i)) (f : Filling β n)
    (places : List (Fin n)) :
    places.foldlM (fun f i => return f.write i (← unit i)) f =
      .ok (f.writeAll reading places) := by
  induction places generalizing f with
  | nil => rfl
  | cons p places ih =>
    rw [List.foldlM_cons, h p]
    exact ih (f.write p (reading p))

theorem ofFnM_eq_ok {ε γ : Type} {n : Nat} {unit : Fin n → Except ε γ} {reading : Fin n → γ}
    (h : ∀ i, unit i = .ok (reading i)) : Vector.ofFnM unit = .ok (.ofFn reading) := by
  obtain rfl : unit = fun i => pure (reading i) := funext h
  exact Vector.ofFnM_pure

theorem reverse_ofFn_rev {γ : Type} {n : Nat} (reading : Fin n → γ) :
    (Vector.ofFn fun i => reading i.rev).reverse = .ofFn reading := by
  ext i hi
  rw [Vector.getElem_reverse, Vector.getElem_ofFn, Vector.getElem_ofFn]
  have hlast : n - (n - 1 - i + 1) = i := by omega
  exact congrArg reading (Fin.ext hlast)

theorem Filling.collect_ofFn {n : Nat} (reading : Fin n → Reading β) (f : Filling β n) :
    f.collect (.ofFn reading) = .ofReadings reading f.anomalies := by
  have hcount (places : List (Fin n)) (start : Nat) :
      (places.map reading).foldl (fun anomalies r => anomalies + r.anomalies) start =
        start + (places.map fun p => (reading p).anomalies).sum := by
    induction places generalizing start with
    | nil => rfl
    | cons p places ih =>
      rw [List.map_cons, List.foldl_cons, ih, List.map_cons, List.sum_cons, Nat.add_assoc]
  unfold collect ofReadings
  rw [Vector.map_ofFn, ← Vector.foldl_toList, Vector.toList_ofFn, List.ofFn_eq_map, hcount]
  rfl

/-- A stage over the columns none of whose units fails. However the readings come together, it is as
if every unit had written to its own place when it ran. -/
theorem runColumns_eq_writeAll {ε : Type} (order : UnitOrder area)
    {unit : Fin area → Except ε (Reading β)} {reading : Fin area → Reading β}
    (h : ∀ i, unit i = .ok (reading i)) (start : Filling β area) :
    runColumns order unit start = .ok (start.writeAll reading order.units) := by
  rw [Filling.writeAll_of_perm reading start order.complete]
  cases order with
  | forward =>
    rw [runColumns, ofFnM_eq_ok h]
    exact congrArg Except.ok (Filling.collect_ofFn reading start)
  | reverse =>
    have hcollect := Filling.collect_ofFn reading start
    rw [← reverse_ofFn_rev reading] at hcollect
    rw [runColumns, ofFnM_eq_ok fun i => h i.rev]
    exact congrArg Except.ok hcollect
  | free units complete =>
    rw [runColumns, foldlM_write h, Filling.writeAll_of_perm reading start complete]

theorem runColumns_eq_ok {ε : Type} (order : UnitOrder area)
    {unit : Fin area → Except ε (Reading β)} {reading : Fin area → Reading β}
    (h : ∀ i, unit i = .ok (reading i)) (start : Filling β area) :
    runColumns order unit start = .ok (.ofReadings reading start.anomalies) := by
  rw [runColumns_eq_writeAll order h, Filling.writeAll_of_perm reading start order.complete]

/-! ## Stages over the layers -/

/-- The voxels in the order in which a stage writes them: layer after layer, and within a layer
column after column. -/
def layerPlaces (order : UnitOrder height) : List (Fin volume) :=
  order.units.flatMap fun y => (List.finRange area).map (layerPlace y)

/-- What the units of a stage read at the voxel with the given number. -/
def atVoxel (unit : Fin height → Fin area → Reading β) (p : Fin volume) : Reading β :=
  unit (voxelY p) (column (voxelX p) (voxelZ p))

theorem mem_layerPlaces (order : UnitOrder height) (p : Fin volume) : p ∈ layerPlaces order := by
  refine List.mem_flatMap.mpr ⟨voxelY p, order.mem_units _, ?_⟩
  refine List.mem_map.mpr ⟨column (voxelX p) (voxelZ p), List.mem_finRange _, ?_⟩
  rw [layerPlace_eq_voxel, columnX_column, columnZ_column, voxel_coords]

theorem nodup_layerPlaces (order : UnitOrder height) : (layerPlaces order).Nodup := by
  refine List.nodup_flatMap.mpr ⟨fun y _ => ?_, ?_⟩
  · refine (List.nodup_finRange area).map fun i j hij => ?_
    have hval := congrArg Fin.val hij
    simp only [layerPlace, Nat.add_left_cancel_iff] at hval
    exact Fin.ext hval
  · refine order.nodup.imp fun {y y'} hne => ?_
    intro p hp hp'
    obtain ⟨i, -, rfl⟩ := List.mem_map.mp hp
    obtain ⟨j, -, hj⟩ := List.mem_map.mp hp'
    have hy := congrArg voxelY hj
    simp only [layerPlace_eq_voxel, voxelY_voxel] at hy
    exact hne hy.symm

theorem layerPlaces_perm (order : UnitOrder height) :
    (layerPlaces order).Perm (List.finRange volume) := by
  refine (List.perm_ext_iff_of_nodup (nodup_layerPlaces order) (List.nodup_finRange _)).mpr ?_
  intro p
  exact iff_of_true (mem_layerPlaces order p) (List.mem_finRange p)

theorem writeLayer_eq_writeAll (unit : Fin height → Fin area → Reading β) (y : Fin height)
    (start : Filling β volume) :
    writeLayer unit y start = start.writeAll (atVoxel unit)
      ((List.finRange area).map (layerPlace y)) := by
  simp only [writeLayer, Filling.writeAll, List.foldl_map, atVoxel, layerPlace_eq_voxel,
    voxelX_voxel, voxelY_voxel, voxelZ_voxel, column_coords]

/-- Whatever the order of the layers, a stage over them leaves the reading of every voxel. -/
theorem runLayers_eq (order : UnitOrder height) (unit : Fin height → Fin area → Reading β)
    (start : Filling β volume) :
    runLayers order unit start = .ofReadings (atVoxel unit) start.anomalies := by
  rw [← Filling.writeAll_of_perm (atVoxel unit) start (layerPlaces_perm order), runLayers]
  simp only [writeLayer_eq_writeAll, Filling.writeAll, layerPlaces, List.foldl_flatMap]

end Landform
