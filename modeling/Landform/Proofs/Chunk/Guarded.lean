import Landform.Proofs.Chunk.Voxelwise
import Landform.Proofs.Terrain.Smoothing

/-! # Generation that asks before it acts

Some steps of a generation do not go with every value: a number is held between bounds that have to
be finite and in order, a buffer is looked at in places that it has to have, and a share of the
neighbours needs neighbours. Here a generation works on plain buffers with plain numbers for
places, and asks before every such step. Under an accepted table it never asks for a step that is
not safe, and what it makes is the chunk. For a key out of range it does not ask at all. -/

namespace Landform

open Layout

/-! ## Steps that can go wrong -/

/-- A step that does not go with every value. -/
inductive Hazard where
  /-- Holds a number between two bounds. -/
  | hold (lo hi : Float)
  /-- Looks at a place of a buffer. -/
  | place (i size : Nat)
  /-- Takes the part of a buffer that ends before a place. -/
  | part (stop size : Nat)
  /-- Divides by the number of neighbours of a voxel. -/
  | share (neighbours : Nat)
  /-- Hands on a buffer as a field. -/
  | field (size expected : Nat)

/-- Whether a step goes through. Every voxel of a chunk has neighbours along all three axes. -/
def Hazard.isSafe : Hazard → Bool
  | hold lo hi => lo.isFinite && hi.isFinite && decide (lo ≤ hi)
  | place i size => decide (i < size)
  | part stop size => decide (stop ≤ size)
  | share neighbours => decide (3 ≤ neighbours)
  | field size expected => size == expected

/-- Why a generation that asks ends without a chunk. -/
inductive Stop where
  | refused (cause : RequestError)
  /-- A step was not allowed. -/
  | barred (hazard : Hazard)

section Steps

variable (allowed : Hazard → Bool) {β : Type}

/-- Takes a step that has a value, if it is allowed. -/
def attempt (hazard : Hazard) (value : β) : Except Stop β :=
  if allowed hazard then .ok value else .error (.barred hazard)

/-- Holds a number between two bounds. -/
def hold (lo hi v : Float) : Except Stop Float :=
  attempt allowed (.hold lo hi) (Scalar.clamp lo hi v)

/-- The value at a place of a buffer. -/
def fetch (buffer : Array β) (i : Nat) : Except Stop β := do
  attempt allowed (.place i buffer.size) ()
  match buffer[i]? with
  | some v => .ok v
  | none => .error (.barred (.place i buffer.size))

/-- The layer of a buffer at a height. -/
def layerOf (buffer : Array β) (y : Nat) : Except Stop (Array β) :=
  attempt allowed (.part ((y + 1) * area) buffer.size) (buffer.extract (y * area) ((y + 1) * area))

/-- A buffer as a field with a value for each of `n` places. -/
def fieldOf (buffer : Array β) (n : Nat) : Except Stop (Vector β n) := do
  attempt allowed (.field buffer.size n) ()
  if h : buffer.size = n then .ok ⟨buffer, h⟩ else .error (.barred (.field buffer.size n))

end Steps

/-! ## Stages over plain buffers -/

/-- A plain buffer that is being filled, and the counter. -/
structure Buffer (β : Type) where
  places : Array β
  anomalies : Nat

namespace Buffer

variable {β : Type}

/-- A buffer with the same value in each of `n` places. -/
def blank (n : Nat) (v : β) (anomalies : Nat) : Buffer β := ⟨Array.replicate n v, anomalies⟩

variable (allowed : Hazard → Bool)

/-- Writes one place. -/
def write (b : Buffer β) (i : Nat) (r : Reading β) : Except Stop (Buffer β) :=
  attempt allowed (.place i b.places.size)
    ⟨b.places.setIfInBounds i r.value, b.anomalies + r.anomalies⟩

/-- Adds a reading at the end. -/
def push (b : Buffer β) (r : Reading β) : Buffer β :=
  ⟨b.places.push r.value, b.anomalies + r.anomalies⟩

/-- Collects the readings of units in the order in which they run. -/
def collect (units : List Nat) (unit : Nat → Except Stop (Reading β)) (anomalies : Nat) :
    Except Stop (Buffer β) :=
  units.foldlM (fun b i => return b.push (← unit i)) ⟨#[], anomalies⟩

/-- Runs the units of a stage over the columns. -/
def runColumns (order : UnitOrder area) (unit : Nat → Except Stop (Reading β))
    (start : Buffer β) : Except Stop (Buffer β) :=
  match order with
  | .forward => collect (List.range area) unit start.anomalies
  | .reverse => do
    let b ← collect (List.range area).reverse unit start.anomalies
    return ⟨b.places.reverse, b.anomalies⟩
  | .free units _ =>
    (units.map Fin.val).foldlM (fun b i => do b.write allowed i (← unit i)) start

/-- One unit of a stage over the layers. -/
def writeLayer (unit : Nat → Nat → Except Stop (Reading β)) (start : Buffer β) (y : Nat) :
    Except Stop (Buffer β) :=
  (List.range area).foldlM (fun b i => do b.write allowed (y * area + i) (← unit y i)) start

/-- Runs the units of a stage over the layers. -/
def runLayers (units : List Nat) (unit : Nat → Nat → Except Stop (Reading β)) (start : Buffer β) :
    Except Stop (Buffer β) :=
  units.foldlM (writeLayer allowed unit) start

end Buffer

/-! ## Units that ask -/

section Units

variable (allowed : Hazard → Bool)

namespace Ground

/-- The height of a local column. -/
def guardedHeight (g : Ground Float) (x z : Nat) : Except Stop Float :=
  let h := g.rawHeight (g.columnPoint x z)
  -- an undefined height has no place between bounds and stays as it is
  if ¬ (h ≤ h) then .ok h else hold allowed g.minHeight g.maxHeight h

/-- What carving leaves of a density. -/
def guardedCaveFactor (g : Ground Float) (x y z : Nat) (height : Float) : Except Stop Float :=
  match g.caves with
  | none => .ok 1
  | some c =>
    if y < c.floor ∨ height - Scalar.ofNat y < c.surfaceShell then .ok 1
    else do
      let p := g.voxelPoint x y z
      let n := Scalar.abs (c.noise.sample3 p.x p.y p.z)
      let t ← hold allowed 0 1 ((n - c.innerEdge) / (c.outerEdge - c.innerEdge))
      return 1 - Noise.ease t

/-- The density of a local voxel in a column. -/
def guardedDensity (g : Ground Float) (x y z : Nat) (column : ColumnSample Float) :
    Except Stop Float := do
  let factor ← g.guardedCaveFactor allowed x y z column.height
  let d := (column.height - Scalar.ofNat y) * factor + column.ripple
  return if g.ceiling ≤ y then (if d < 0 then d else 0) else d

end Ground

/-- The numbers below `n` next to the given one. -/
def besideNat (n c : Nat) : List Nat :=
  (if 0 < c then [c - 1] else []) ++ (if c + 1 < n then [c + 1] else [])

/-- The materials of the voxels that share a face with the given one. -/
def guardedNeighbours (ground : Array Material) (x y z : Nat) : Except Stop (List Material) :=
  ((besideNat width x).map (voxelIndex · y z) ++ (besideNat height y).map (voxelIndex x · z) ++
    (besideNat width z).map (voxelIndex x y ·)).mapM (fetch allowed ground)

/-- The material of a voxel after smoothing. -/
def SmoothingTable.guardedApply (s : SmoothingTable Float) (ground : Array Material)
    (x y z : Nat) : Except Stop Material := do
  let material ← fetch allowed ground (voxelIndex x y z)
  if material = .air then return .air
  let around ← guardedNeighbours allowed ground x y z
  let fraction : Float ← attempt allowed (.share around.length)
    (Scalar.ofNat (around.countP (· != .air)) / Scalar.ofNat around.length)
  return if s.keepAbove < fraction then material
    else if fraction < s.clearBelow then .air
    else material

namespace Worksite

/-- First stage. -/
def guardedColumn (w : Worksite) (i : Nat) : Except Stop (Reading ColumnData) := do
  let (x, z) := columnCoords i
  let height ← w.ground.guardedHeight allowed x z
  let ripple := w.ground.rippleAt x z
  let sample : ColumnSample Float :=
    ⟨if height.isFinite then height else w.fallbackHeight, if ripple.isFinite then ripple else 0⟩
  return ⟨⟨sample, w.climate.biomeAt (w.ground.columnPoint x z)⟩,
    (if height.isFinite then 0 else 1) + (if ripple.isFinite then 0 else 1)⟩

/-- Second stage. -/
def guardedDensity (w : Worksite) (columns : Array ColumnData) (y i : Nat) :
    Except Stop (Reading Float32) := do
  let (x, z) := columnCoords i
  let column ← fetch allowed columns i
  return storedDensity (← w.ground.guardedDensity allowed x y z column.sample)

/-- Third stage. -/
def guardedGround (w : Worksite) (columns : Array ColumnData) (density : Array Float32)
    (y i : Nat) : Except Stop (Reading Material) := do
  let layer ← layerOf allowed density y
  let d ← fetch allowed layer i
  let column ← fetch allowed columns i
  return ⟨w.bands.classify (isSolid d) y (column.sample.height - Scalar.ofNat y), 0⟩

/-- Fourth stage. -/
def guardedFinish (w : Worksite) (columns : Array ColumnData) (ground : Array Material)
    (y i : Nat) : Except Stop (Reading (Material × Marks)) := do
  let (x, z) := columnCoords i
  let smoothed ← w.smoothing.guardedApply allowed ground x y z
  let marks := if smoothed.takesMarks then w.marking.sample (w.ground.voxelPoint x y z) y else 0
  let column ← fetch allowed columns i
  return ⟨(w.marking.compose smoothed marks y (column.sample.height - Scalar.ofNat y), marks), 0⟩

/-- All units of the first stage. -/
def guardedColumns (w : Worksite) (plan : Plan) : Except Stop (Buffer ColumnData) :=
  Buffer.runColumns allowed plan.columns (w.guardedColumn allowed) (.blank area .blank 0)

/-- All units of the second stage, which goes on counting where the first has ended. -/
def guardedDensities (w : Worksite) (plan : Plan) (columns : Buffer ColumnData) :
    Except Stop (Buffer Float32) :=
  Buffer.runLayers allowed (plan.density.units.map Fin.val)
    (w.guardedDensity allowed columns.places) (.blank volume 0 columns.anomalies)

/-- All units of the third stage. -/
def guardedGrounds (w : Worksite) (plan : Plan) (columns : Buffer ColumnData)
    (density : Buffer Float32) : Except Stop (Buffer Material) :=
  Buffer.runLayers allowed (plan.ground.units.map Fin.val)
    (w.guardedGround allowed columns.places density.places) (.blank volume .air 0)

/-- All units of the fourth stage. -/
def guardedFinishes (w : Worksite) (plan : Plan) (columns : Buffer ColumnData)
    (ground : Buffer Material) : Except Stop (Buffer (Material × Marks)) :=
  Buffer.runLayers allowed (plan.marks.units.map Fin.val)
    (w.guardedFinish allowed columns.places ground.places) (.blank volume (.air, 0) 0)

/-- What the stages of a key work with under a table. -/
def guardedOfTable (t : Table Float) (key : ChunkKey) : Except Stop Worksite := do
  let d := t.dimension key.dimension
  let base ← hold allowed d.height.minHeight d.height.maxHeight d.height.base
  return {
    ground := .ofTable d key
    climate := .ofTable t.climate key.seed key.dimension
    marking := .ofTable d.markers key
    bands := d.bands
    smoothing := t.smoothing
    fallbackHeight := ([base, d.height.minHeight].find? Float.isFinite).getD 0 }

end Worksite

end Units

/-- Generates a chunk by a plan, asking before every step that can go wrong. -/
def Generator.runGuarded (g : Generator) (allowed : Hazard → Bool) (plan : Plan) (key : ChunkKey) :
    Except Stop Chunk := do
  if !key.inRange then throw (.refused (.outOfRange key.x key.z))
  let w ← Worksite.guardedOfTable allowed g.table key
  let columns ← w.guardedColumns allowed plan
  let density ← w.guardedDensities allowed plan columns
  let ground ← w.guardedGrounds allowed plan columns density
  let final ← w.guardedFinishes allowed plan columns ground
  let densityField ← fieldOf allowed density.places volume
  let groundField ← fieldOf allowed ground.places volume
  let finalField ← fieldOf allowed final.places volume
  let biome ← fieldOf allowed (columns.places.map (·.biome)) area
  return {
    key
    density := densityField
    material := finalField.map (·.1)
    marks := finalField.map (·.2)
    biome
    checksum := Checksum.ofBiomes key biome.toList
    diagnostics := .ofFields density.anomalies groundField finalField }

/-! ## Steps that are safe -/

/-- Every step that is safe is allowed. -/
def Permits (allowed : Hazard → Bool) : Prop :=
  ∀ hazard, hazard.isSafe = true → allowed hazard = true

namespace Permits

variable {allowed : Hazard → Bool} (hp : Permits allowed) {β : Type} {n : Nat}

include hp

theorem attempt_eq_ok {hazard : Hazard} (h : hazard.isSafe = true) (value : β) :
    attempt allowed hazard value = .ok value :=
  if_pos (hp hazard h)

theorem hold_eq_ok {lo hi : Float} (hlo : lo.isFinite = true) (hhi : hi.isFinite = true)
    (hle : lo ≤ hi) (v : Float) : hold allowed lo hi v = .ok (Scalar.clamp lo hi v) := by
  apply hp.attempt_eq_ok
  simp only [Hazard.isSafe, hlo, hhi, hle, decide_true, Bool.and_self]

theorem fetch_eq_ok {buffer : Array β} {i : Nat} (h : i < buffer.size) :
    fetch allowed buffer i = .ok buffer[i] := by
  have hplace : (Hazard.place i buffer.size).isSafe = true := decide_eq_true h
  unfold fetch
  rw [hp.attempt_eq_ok hplace, Array.getElem?_eq_getElem h]
  rfl

theorem fetch_field (f : Vector β n) (i : Fin n) : fetch allowed f.toArray i = .ok (f.get i) :=
  hp.fetch_eq_ok (f.size_toArray.symm ▸ i.isLt)

/-- A place of a layer is a place of the whole buffer. -/
theorem fetch_layer (f : Vector β volume) (y : Fin height) (i : Fin area) :
    (do let layer ← layerOf allowed f.toArray y; fetch allowed layer i) =
      .ok (f.get (layerPlace y i)) := by
  have hplace := (layerPlace y i).isLt
  have hstop : (y.val + 1) * area ≤ f.toArray.size := by
    have := y.isLt
    rw [f.size_toArray]
    simp only [area, volume, height] at *
    omega
  have hpart : (Hazard.part ((y.val + 1) * area) f.toArray.size).isSafe = true :=
    decide_eq_true hstop
  have hlayer : i.val < (f.toArray.extract (y * area) ((y + 1) * area)).size := by
    have := i.isLt
    rw [Array.size_extract, Nat.min_eq_left hstop]
    simp only [area] at *
    omega
  unfold layerOf
  rw [hp.attempt_eq_ok hpart]
  change fetch allowed _ _ = _
  rw [hp.fetch_eq_ok hlayer, Array.getElem_extract]
  rfl

theorem fieldOf_field (f : Vector β n) : fieldOf allowed f.toArray n = .ok f := by
  have hsize : (Hazard.field f.toArray.size n).isSafe = true := by
    simp only [Hazard.isSafe, f.size_toArray, beq_self_eq_true]
  unfold fieldOf
  rw [hp.attempt_eq_ok hsize]
  exact dif_pos f.size_toArray

end Permits

/-! ## Stages of safe units -/

/-- A field that is being filled, as a plain buffer. -/
def Filling.buffer {β : Type} {n : Nat} (f : Filling β n) : Buffer β :=
  ⟨f.field.toArray, f.anomalies⟩

/-- A loop over plain numbers whose steps go through does what the loop over the units does. -/
theorem foldlM_buffer {β : Type} {n m : Nat} {step : Buffer β → Nat → Except Stop (Buffer β)}
    {write : Filling β n → Fin m → Filling β n}
    (h : ∀ f i, step f.buffer i.val = .ok (write f i).buffer) (units : List (Fin m))
    (f : Filling β n) :
    (units.map Fin.val).foldlM step f.buffer = .ok (units.foldl write f).buffer := by
  induction units generalizing f with
  | nil => rfl
  | cons i units ih =>
    rw [List.map_cons, List.foldlM_cons, h]
    exact ih (write f i)

section Collecting

variable {β : Type} {n : Nat} {reading : Fin n → Reading β}

theorem ofReadings_buffer (anomalies : Nat) :
    (Filling.ofReadings reading anomalies).buffer =
      ⟨((List.finRange n).map fun i => (reading i).value).toArray,
        anomalies + ((List.finRange n).map fun i => (reading i).anomalies).sum⟩ := by
  have hplaces : (Vector.ofFn fun i => (reading i).value).toArray =
      ((List.finRange n).map fun i => (reading i).value).toArray := by
    rw [Vector.toArray_ofFn, ← List.ofFn_eq_map, List.toArray_ofFn]
  exact congrArg (Buffer.mk · _) hplaces

variable {unit : Nat → Except Stop (Reading β)} (h : ∀ i : Fin n, unit i = .ok (reading i))

include h

theorem foldlM_push (units : List (Fin n)) (b : Buffer β) :
    (units.map Fin.val).foldlM (fun b i => return b.push (← unit i)) b =
      .ok ⟨b.places ++ (units.map fun i => (reading i).value).toArray,
        b.anomalies + (units.map fun i => (reading i).anomalies).sum⟩ := by
  induction units generalizing b with
  | nil =>
    rw [List.map_nil, List.map_nil, Array.append_empty]
    rfl
  | cons i units ih =>
    have hrest := ih (b.push (reading i))
    rw [List.map_cons, List.foldlM_cons, h]
    refine hrest.trans (congrArg Except.ok ?_)
    rw [Buffer.push, List.map_cons, List.map_cons, List.sum_cons, Nat.add_assoc,
      List.push_append_toArray]

theorem collect_eq_ok (units : List (Fin n)) (anomalies : Nat) :
    Buffer.collect (units.map Fin.val) unit anomalies =
      .ok ⟨(units.map fun i => (reading i).value).toArray,
        anomalies + (units.map fun i => (reading i).anomalies).sum⟩ := by
  rw [Buffer.collect, foldlM_push h, Array.empty_append]

end Collecting

namespace Permits

variable {allowed : Hazard → Bool} (hp : Permits allowed) {β : Type} {n : Nat}

include hp

theorem fieldOf_map {γ : Type} (f : Filling β n) (read : β → γ) :
    fieldOf allowed (f.buffer.places.map read) n = .ok (f.field.map read) :=
  hp.fieldOf_field (f.field.map read)

theorem fieldOf_buffer (f : Filling β n) : fieldOf allowed f.buffer.places n = .ok f.field :=
  hp.fieldOf_field f.field

theorem write_buffer (f : Filling β n) (i : Fin n) (r : Reading β) :
    f.buffer.write allowed i r = .ok (f.write i r).buffer := by
  have hi : i.val < f.field.toArray.size := f.field.size_toArray.symm ▸ i.isLt
  have hplace : (Hazard.place i f.field.toArray.size).isSafe = true := decide_eq_true hi
  have hset : f.field.toArray.setIfInBounds i r.value = (f.field.set i r.value).toArray := by
    rw [Array.setIfInBounds, dif_pos hi, Vector.toArray_set]
  unfold Buffer.write
  rw [Filling.buffer, hp.attempt_eq_ok hplace, hset]
  rfl

theorem runColumns_buffer (order : UnitOrder area) {unit : Nat → Except Stop (Reading β)}
    {reading : Fin area → Reading β} (h : ∀ i : Fin area, unit i = .ok (reading i))
    (start : Filling β area) :
    Buffer.runColumns allowed order unit start.buffer =
      .ok (Filling.ofReadings reading start.anomalies).buffer := by
  cases order with
  | forward =>
    rw [Buffer.runColumns, ← List.map_coe_finRange_eq_range, collect_eq_ok h, ofReadings_buffer]
    rfl
  | reverse =>
    -- turned round, the readings stand upwards again, and the order of the counts does not matter
    rw [Buffer.runColumns, ← List.map_coe_finRange_eq_range, ← List.map_reverse, collect_eq_ok h,
      ofReadings_buffer, List.map_reverse, List.map_reverse, List.sum_reverse]
    refine congrArg Except.ok (congrArg (Buffer.mk · _) ?_)
    rw [List.reverse_toArray, List.reverse_reverse]
  | free units complete =>
    -- the order names every column once, so its writes come to the same field as all readings
    rw [← Filling.writeAll_of_perm reading start complete]
    apply foldlM_buffer
    intro f i
    rw [h]
    exact hp.write_buffer f i (reading i)

theorem runLayers_buffer (order : UnitOrder height) {unit : Nat → Nat → Except Stop (Reading β)}
    {reading : Fin height → Fin area → Reading β}
    (h : ∀ (y : Fin height) (i : Fin area), unit y i = .ok (reading y i))
    (start : Filling β volume) :
    Buffer.runLayers allowed (order.units.map Fin.val) unit start.buffer =
      .ok (runLayers order reading start).buffer := by
  apply foldlM_buffer
  intro f y
  -- within a layer the units are plain numbers again: the same argument, one loop further in
  unfold Buffer.writeLayer
  rw [← List.map_coe_finRange_eq_range]
  apply foldlM_buffer
  intro f i
  rw [h]
  exact hp.write_buffer f (layerPlace y i) (reading y i)

end Permits

/-! ## Units that are safe -/

theorem besideNat_eq {n : Nat} (c : Fin n) : besideNat n c = (beside c).map Fin.val := by
  unfold besideNat beside
  rw [List.map_append]
  congr 1
  · split <;> rfl
  · split <;> rfl

namespace Permits

variable {allowed : Hazard → Bool} (hp : Permits allowed)

include hp

theorem height_eq_ok {g : Ground Float} (hmin : g.minHeight.isFinite = true)
    (hmax : g.maxHeight.isFinite = true) (hle : g.minHeight ≤ g.maxHeight) (x z : Nat) :
    g.guardedHeight allowed x z = .ok (g.heldHeight x z) := by
  unfold Ground.guardedHeight Ground.heldHeight
  by_cases hn : g.rawHeight (g.columnPoint x z) ≤ g.rawHeight (g.columnPoint x z)
  · simp only [hn, not_true_eq_false, if_true, if_false, hp.hold_eq_ok hmin hmax hle]
  · simp only [hn, not_false_eq_true, if_true, if_false]

theorem caveFactor_eq_ok (g : Ground Float) (x y z : Nat) (height : Float) :
    g.guardedCaveFactor allowed x y z height = .ok (g.caveFactor x y z height) := by
  have hunit (v : Float) : hold allowed 0 1 v = .ok (Scalar.clamp 0 1 v) :=
    hp.hold_eq_ok (by decide +kernel) (by decide +kernel) (by decide +kernel) v
  unfold Ground.guardedCaveFactor Ground.caveFactor
  cases g.caves with
  | none => rfl
  | some c =>
    simp only [hunit]
    split <;> rfl

theorem density_eq_ok (g : Ground Float) (x y z : Nat) (column : ColumnSample Float) :
    g.guardedDensity allowed x y z column = .ok (g.density x y z column) := by
  unfold Ground.guardedDensity
  rw [hp.caveFactor_eq_ok]
  rfl

theorem fetch_places {n : Nat} {β : Type} (f : Vector β n) (places : List (Fin n)) :
    (places.map Fin.val).mapM (fetch allowed f.toArray) = .ok (places.map f.get) := by
  induction places with
  | nil => rfl
  | cons p places ih =>
    rw [List.map_cons, List.mapM_cons, hp.fetch_field, ih]
    rfl

theorem neighbours_eq_ok (ground : VoxelField Material) (x : Fin width) (y : Fin height)
    (z : Fin width) :
    guardedNeighbours allowed ground.toArray x y z = .ok (neighbours ground x y z) := by
  have hplaces : (besideNat width x).map (voxelIndex · y z) ++
      (besideNat height y).map (voxelIndex x · z) ++ (besideNat width z).map (voxelIndex x y ·) =
        (voxelsBeside x y z).map Fin.val := by
    simp only [voxelsBeside, besideNat_eq, List.map_append, List.map_map]
    rfl
  rw [guardedNeighbours, hplaces, hp.fetch_places, neighbours_eq]

theorem apply_eq_ok (s : SmoothingTable Float) (ground : VoxelField Material) (x : Fin width)
    (y : Fin height) (z : Fin width) :
    s.guardedApply allowed ground.toArray x y z = .ok (s.apply ground x y z) := by
  have hshare : (Hazard.share (neighbours ground x y z).length).isSafe = true :=
    decide_eq_true (three_le_neighbours ground x y z)
  have hvoxel := hp.fetch_field ground (voxel x y z)
  unfold SmoothingTable.guardedApply SmoothingTable.apply
  change fetch allowed ground.toArray (voxelIndex x y z) = _ at hvoxel
  rw [hvoxel]
  change (if ground.value x y z = .air then _ else _) = _
  by_cases hair : ground.value x y z = .air
  · -- air is not smoothed, so its neighbours are not counted
    simp only [hair, if_true]
    rfl
  · simp only [hair, if_false, hp.neighbours_eq_ok]
    change (attempt allowed _ _ >>= _) = _
    rw [hp.attempt_eq_ok hshare]
    rfl

end Permits

/-! ## Generation -/

namespace Generator

variable (g : Generator) (key : ChunkKey) {allowed : Hazard → Bool}

theorem guardedColumn_eq_ok (hp : Permits allowed) (i : Fin area) :
    (g.worksite key).guardedColumn allowed i = .ok (g.columnReading key i) := by
  obtain ⟨hmin, hmax, hle⟩ := g.bounds_of_checked key.dimension
  have hheight := hp.height_eq_ok (g := g.ground key) hmin hmax hle (columnX i) (columnZ i)
  unfold Worksite.guardedColumn
  change ((g.ground key).guardedHeight allowed (columnX i) (columnZ i) >>= _) = _
  rw [hheight]
  rfl

theorem guardedDensity_eq_ok (hp : Permits allowed) (columns : ColumnField ColumnData)
    (y : Fin height) (i : Fin area) :
    (g.worksite key).guardedDensity allowed columns.toArray y i =
      .ok ((g.worksite key).density columns y i) := by
  unfold Worksite.guardedDensity
  simp only [hp.fetch_field]
  change ((g.ground key).guardedDensity allowed (columnX i) y (columnZ i) _ >>= _) = _
  rw [hp.density_eq_ok]
  rfl

theorem guardedGround_eq_ok (hp : Permits allowed) (columns : ColumnField ColumnData)
    (density : VoxelField Float32) (y : Fin height) (i : Fin area) :
    (g.worksite key).guardedGround allowed columns.toArray density.toArray y i =
      .ok ((g.worksite key).groundMaterial columns density y i) := by
  have hlayer := hp.fetch_layer density y i
  unfold Worksite.guardedGround
  simp only [← bind_assoc, hlayer, hp.fetch_field]
  rfl

theorem guardedFinish_eq_ok (hp : Permits allowed) (columns : ColumnField ColumnData)
    (ground : VoxelField Material) (y : Fin height) (i : Fin area) :
    (g.worksite key).guardedFinish allowed columns.toArray ground.toArray y i =
      .ok ((g.worksite key).finish columns ground y i) := by
  have happly := hp.apply_eq_ok g.table.smoothing ground (columnX i) y (columnZ i)
  unfold Worksite.guardedFinish
  change (g.table.smoothing.guardedApply allowed ground.toArray (columnX i) y (columnZ i) >>= _) = _
  simp only [happly, hp.fetch_field]
  rfl

theorem guardedOfTable_eq_ok (hp : Permits allowed) :
    Worksite.guardedOfTable allowed g.table key = .ok (g.worksite key) := by
  obtain ⟨hmin, hmax, hle⟩ := g.bounds_of_checked key.dimension
  have hbase := hp.hold_eq_ok hmin hmax hle (g.table.dimension key.dimension).height.base
  unfold Worksite.guardedOfTable
  simp only [hbase]
  rfl

theorem guardedColumns_eq_ok (hp : Permits allowed) (plan : Plan) :
    (g.worksite key).guardedColumns allowed plan =
      .ok (Filling.ofReadings (g.columnReading key) 0).buffer :=
  hp.runColumns_buffer plan.columns (g.guardedColumn_eq_ok key hp)
    ⟨Vector.replicate area .blank, 0⟩

theorem guardedDensities_eq_ok (hp : Permits allowed) (plan : Plan)
    (columns : Filling ColumnData area) :
    (g.worksite key).guardedDensities allowed plan columns.buffer =
      .ok (runLayers plan.density ((g.worksite key).density columns.field)
        ⟨Vector.replicate volume 0, columns.anomalies⟩).buffer :=
  hp.runLayers_buffer plan.density (g.guardedDensity_eq_ok key hp columns.field)
    ⟨Vector.replicate volume 0, columns.anomalies⟩

theorem guardedGrounds_eq_ok (hp : Permits allowed) (plan : Plan)
    (columns : Filling ColumnData area) (density : Filling Float32 volume) :
    (g.worksite key).guardedGrounds allowed plan columns.buffer density.buffer =
      .ok (runLayers plan.ground ((g.worksite key).groundMaterial columns.field density.field)
        ⟨Vector.replicate volume .air, 0⟩).buffer :=
  hp.runLayers_buffer plan.ground (g.guardedGround_eq_ok key hp columns.field density.field)
    ⟨Vector.replicate volume .air, 0⟩

theorem guardedFinishes_eq_ok (hp : Permits allowed) (plan : Plan)
    (columns : Filling ColumnData area) (ground : Filling Material volume) :
    (g.worksite key).guardedFinishes allowed plan columns.buffer ground.buffer =
      .ok (runLayers plan.marks ((g.worksite key).finish columns.field ground.field)
        ⟨Vector.replicate volume (.air, 0), 0⟩).buffer :=
  hp.runLayers_buffer plan.marks (g.guardedFinish_eq_ok key hp columns.field ground.field)
    ⟨Vector.replicate volume (.air, 0), 0⟩

/-- Where every safe step is allowed, a generation that asks makes what the plan makes. -/
theorem runGuarded_eq_run (hp : Permits allowed) (plan : Plan) (h : key.inRange = true) :
    ∃ c, g.run plan key false = .ok c ∧ g.runGuarded allowed plan key = .ok c := by
  have hcolumns := runColumns_eq_ok plan.columns (g.column_eq_ok key)
    ⟨Vector.replicate area .blank, 0⟩
  unfold run runGuarded
  rw [ChunkKey.check_of_inRange h, worksite_eq_ok]
  simp only [h, Bool.not_true, Bool.false_eq_true, if_false, g.guardedOfTable_eq_ok key hp,
    g.guardedColumns_eq_ok key hp, g.guardedDensities_eq_ok key hp, bind, Except.bind,
    g.guardedGrounds_eq_ok key hp, g.guardedFinishes_eq_ok key hp, hcolumns, hp.fieldOf_buffer,
    hp.fieldOf_map]
  exact ⟨_, rfl, rfl⟩

/-- A key out of range is refused before anything is asked, whatever is allowed. -/
theorem runGuarded_of_not_inRange (plan : Plan) (h : key.inRange = false) :
    g.runGuarded allowed plan key = .error (.refused (.outOfRange key.x key.z)) := by
  unfold runGuarded
  rw [h]
  rfl

end Generator

theorem Generator.ofTable_of_check {t : Table Float} (h : t.check = .ok ()) :
    Generator.ofTable t = .ok ⟨t, h⟩ := by
  unfold Generator.ofTable
  split
  · rfl
  · rename_i fault hfault
    rw [h] at hfault
    cases hfault

/-- An accepted table makes a generator. For a key in range that generator makes one chunk, the same
under every schedule, and so does the generation on plain buffers that asks before each hold, each
look into a buffer, each share of neighbours: it only ever asks for steps that are safe. A key out
of range is refused, and nothing is asked for it, since even where nothing is allowed the answer is
that refusal. -/
theorem Table.generate_of_check (t : Table Float) (h : t.check = .ok ()) (key : ChunkKey) :
    ∃ g : Generator, Generator.ofTable t = .ok g ∧
      (key.inRange = true →
        ∃ c : Chunk, (∀ schedule, g.generate schedule key = .ok c) ∧
          ∀ allowed, Permits allowed → ∀ plan, g.runGuarded allowed plan key = .ok c) ∧
      (key.inRange = false →
        (∀ schedule, g.generate schedule key = .error (.outOfRange key.x key.z)) ∧
          ∀ allowed plan,
            g.runGuarded allowed plan key = .error (.refused (.outOfRange key.x key.z))) := by
  refine ⟨⟨t, h⟩, Generator.ofTable_of_check h, fun hkey => ?_, fun hkey => ⟨?_, ?_⟩⟩
  · -- the chunk that is read off voxel by voxel does not depend on a plan
    refine ⟨Generator.voxelwise ⟨t, h⟩ key, ?_, ?_⟩
    · intro schedule
      exact Generator.run_eq_voxelwise _ key schedule.plan hkey
    · intro allowed hp plan
      obtain ⟨c, hrun, hguarded⟩ := Generator.runGuarded_eq_run ⟨t, h⟩ key hp plan hkey
      rw [Generator.run_eq_voxelwise _ key plan hkey] at hrun
      obtain rfl := Except.ok.inj hrun
      exact hguarded
  · intro schedule
    exact Generator.run_of_not_inRange _ schedule.plan hkey false
  · intro allowed plan
    exact Generator.runGuarded_of_not_inRange _ key plan hkey

/-- The default table, with a key in range and a key beyond the last chunk. -/
theorem Table.generate_default :
    (Table.default : Table Float).check = .ok () ∧ Permits Hazard.isSafe ∧
      (⟨3, -7, 11, .overworld⟩ : ChunkKey).inRange = true ∧
      (⟨2147483647, 0, 11, .nether⟩ : ChunkKey).inRange = false ∧
      ∃ g g' : Generator, Generator.ofTable Table.default = .ok g ∧
        (∃ c : Chunk, g.generate .parallel ⟨3, -7, 11, .overworld⟩ = .ok c ∧
          g.runGuarded Hazard.isSafe Schedule.parallel.plan ⟨3, -7, 11, .overworld⟩ = .ok c) ∧
        Generator.ofTable Table.default = .ok g' ∧
        g'.generate .parallel ⟨2147483647, 0, 11, .nether⟩ = .error (.outOfRange 2147483647 0) ∧
        g'.runGuarded (fun _ => false) Schedule.parallel.plan ⟨2147483647, 0, 11, .nether⟩ =
          .error (.refused (.outOfRange 2147483647 0)) := by
  have hpermits : Permits Hazard.isSafe := fun _ h => h
  have hin : (⟨3, -7, 11, .overworld⟩ : ChunkKey).inRange = true := by decide
  have hout : (⟨2147483647, 0, 11, .nether⟩ : ChunkKey).inRange = false := by decide
  obtain ⟨g, hg, hmade, -⟩ := Table.generate_of_check .default check_default ⟨3, -7, 11, .overworld⟩
  obtain ⟨g', hg', -, hrefused⟩ :=
    Table.generate_of_check .default check_default ⟨2147483647, 0, 11, .nether⟩
  obtain ⟨c, hc, hguarded⟩ := hmade hin
  exact ⟨check_default, hpermits, hin, hout, g, g', hg,
    ⟨c, hc .parallel, hguarded _ hpermits _⟩, hg', (hrefused hout).1 _, (hrefused hout).2 _ _⟩

end Landform
