import Landform.Proofs.Document.States
import Landform.Proofs.Table.Draft
import Landform.Table.Read

/-! # Partial tables

A document states a draft if its records give the values that are given in the draft and none that
are not. Every such document is read, and as the table that completes the draft. -/

namespace Landform

open Form

/-- A document that states a material. -/
def StatesMaterial (f : Form) : Material → Document → Prop := f.StatesChoice Material.word

variable {f : Form} {d : Document}

theorem material?_of_states {m : Material} (h : StatesMaterial f m d) :
    f.choice? Material.ofWord? d = some m :=
  f.choice?_of_states h (by cases m <;> decide)

theorem option?_real_of_states {q : Option Quantity} (h : f.StatesOption StatesReal q d) :
    f.option? real? d = some q := by
  have hoption : f.option? real? d = some (q.map id) :=
    f.option?_of_states h (fun _ _ => real?_of_states) rfl fun _ => rfl
  rw [Option.map_id] at hoption
  exact hoption

/-- Rows are stated as they are. -/
theorem list?_rows_of_states {β : Type} {states : β → Document → Prop} {read? : Document → Option β}
    {vs : List β} (h : StatesList states vs d) (hread : ∀ v d, states v d → read? d = some v) :
    list? read? d = some vs := by
  have hlist : list? read? d = some (vs.map id) := list?_of_states h hread
  rw [List.map_id] at hlist
  exact hlist

/-! ## Noise -/

/-- A document that states a layer. -/
def NoiseLayer.Draft.StatedBy (f : Form) (l : NoiseLayer.Draft) : Document → Prop :=
  f.StatesRecord "NoiseLayer"
    [("octaves", l.octaves.map StatesWord32), ("frequency", l.frequency.map StatesReal),
      ("amplitude", l.amplitude.map StatesReal), ("seed_offset", l.salt.map StatesWord64)]

theorem NoiseLayer.Draft.read {l : NoiseLayer.Draft} (h : l.StatedBy f d) :
    NoiseLayer.ofDocument? f d = some l.complete := by
  apply StatesRecord.read h
  intro r hgives
  simp only [List.forall_mem_cons] at hgives
  obtain ⟨hoctaves, hfrequency, hamplitude, hsalt, -⟩ := hgives
  simp only [hoctaves.value? _ (fun _ _ => word32?_of_states),
    hfrequency.value? _ (fun _ _ => real?_of_states),
    hamplitude.value? _ (fun _ _ => real?_of_states), hsalt.value? _ (fun _ _ => word64?_of_states)]
  rfl

/-- A document that states ridges. -/
def RidgeLayer.Draft.StatedBy (f : Form) (l : RidgeLayer.Draft) : Document → Prop :=
  f.StatesRecord "RidgeLayer"
    [("octaves", l.octaves.map StatesWord32), ("frequency", l.frequency.map StatesReal),
      ("amplitude", l.amplitude.map StatesReal), ("sharpness", l.sharpness.map StatesReal),
      ("seed_offset", l.salt.map StatesWord64)]

theorem RidgeLayer.Draft.read {l : RidgeLayer.Draft} (h : l.StatedBy f d) :
    RidgeLayer.ofDocument? f d = some l.complete := by
  apply StatesRecord.read h
  intro r hgives
  simp only [List.forall_mem_cons] at hgives
  obtain ⟨hoctaves, hfrequency, hamplitude, hsharpness, hsalt, -⟩ := hgives
  simp only [hoctaves.value? _ (fun _ _ => word32?_of_states),
    hfrequency.value? _ (fun _ _ => real?_of_states),
    hamplitude.value? _ (fun _ _ => real?_of_states),
    hsharpness.value? _ (fun _ _ => real?_of_states), hsalt.value? _ (fun _ _ => word64?_of_states)]
  rfl

theorem RidgeLayer.Draft.option? {l : Option RidgeLayer.Draft}
    (h : f.StatesOption (RidgeLayer.Draft.StatedBy f) l d) :
    f.option? (RidgeLayer.ofDocument? f) d = some (l.map (·.complete)) :=
  f.option?_of_states h (fun _ _ => RidgeLayer.Draft.read) rfl fun _ => rfl

/-- A document that states a channel. -/
def NoiseChannel.Draft.StatedBy (f : Form) (c : NoiseChannel.Draft) : Document → Prop :=
  f.StatesRecord "NoiseChannel"
    [("octaves", c.octaves.map StatesWord32), ("frequency", c.frequency.map StatesReal),
      ("seed_offset", c.salt.map StatesWord64)]

theorem NoiseChannel.Draft.read {c : NoiseChannel.Draft} (h : c.StatedBy f d) :
    NoiseChannel.ofDocument? f d = some c.complete := by
  apply StatesRecord.read h
  intro r hgives
  simp only [List.forall_mem_cons] at hgives
  obtain ⟨hoctaves, hfrequency, hsalt, -⟩ := hgives
  simp only [hoctaves.value? _ (fun _ _ => word32?_of_states),
    hfrequency.value? _ (fun _ _ => real?_of_states), hsalt.value? _ (fun _ _ => word64?_of_states)]
  rfl

/-- A document that states a marker channel. -/
def MarkerChannel.Draft.StatedBy (f : Form) (c : MarkerChannel.Draft) : Document → Prop :=
  f.StatesRecord "MarkerChannel"
    [("octaves", c.octaves.map StatesWord32), ("frequency", c.frequency.map StatesReal),
      ("threshold", c.threshold.map StatesReal), ("seed_offset", c.salt.map StatesWord64)]

theorem MarkerChannel.Draft.read {c : MarkerChannel.Draft} (h : c.StatedBy f d) :
    MarkerChannel.ofDocument? f d = some c.complete := by
  apply StatesRecord.read h
  intro r hgives
  simp only [List.forall_mem_cons] at hgives
  obtain ⟨hoctaves, hfrequency, hthreshold, hsalt, -⟩ := hgives
  simp only [hoctaves.value? _ (fun _ _ => word32?_of_states),
    hfrequency.value? _ (fun _ _ => real?_of_states),
    hthreshold.value? _ (fun _ _ => real?_of_states), hsalt.value? _ (fun _ _ => word64?_of_states)]
  rfl

theorem MarkerChannel.Draft.option? {c : Option MarkerChannel.Draft}
    (h : f.StatesOption (MarkerChannel.Draft.StatedBy f) c d) :
    f.option? (MarkerChannel.ofDocument? f) d = some (c.map (·.complete)) :=
  f.option?_of_states h (fun _ _ => MarkerChannel.Draft.read) rfl fun _ => rfl

/-! ## Heights and caves -/

/-- A document that states a profile. -/
def HeightProfile.Draft.StatedBy (f : Form) (p : HeightProfile.Draft) : Document → Prop :=
  f.StatesRecord "HeightProfile"
    [("base", p.base.map StatesReal),
      ("layers", p.layers.map (StatesList (NoiseLayer.Draft.StatedBy f))),
      ("ridge", p.ridge.map (f.StatesOption (RidgeLayer.Draft.StatedBy f))),
      ("min_height", p.minHeight.map StatesReal), ("max_height", p.maxHeight.map StatesReal)]

theorem HeightProfile.Draft.read {p : HeightProfile.Draft} (h : p.StatedBy f d) :
    HeightProfile.ofDocument? f d = some p.complete := by
  apply StatesRecord.read h
  intro r hgives
  simp only [List.forall_mem_cons] at hgives
  obtain ⟨hbase, hlayers, hridge, hminHeight, hmaxHeight, -⟩ := hgives
  simp only [hbase.value? _ (fun _ _ => real?_of_states),
    hlayers.getD? _ (fun _ _ h => list?_of_states h fun _ _ => NoiseLayer.Draft.read),
    hridge.getD? _ (fun _ _ => RidgeLayer.Draft.option?),
    hminHeight.value? _ (fun _ _ => real?_of_states),
    hmaxHeight.value? _ (fun _ _ => real?_of_states)]
  rfl

/-- A document that states a carving. -/
def CaveCarving.Draft.StatedBy (f : Form) (c : CaveCarving.Draft) : Document → Prop :=
  f.StatesRecord "CaveCarving"
    [("octaves", c.octaves.map StatesWord32), ("frequency", c.frequency.map StatesReal),
      ("inner_edge", c.innerEdge.map StatesReal), ("outer_edge", c.outerEdge.map StatesReal),
      ("surface_shell", c.surfaceShell.map StatesReal), ("floor", c.floor.map StatesWord32),
      ("seed_offset", c.salt.map StatesWord64)]

theorem CaveCarving.Draft.read {c : CaveCarving.Draft} (h : c.StatedBy f d) :
    CaveCarving.ofDocument? f d = some c.complete := by
  apply StatesRecord.read h
  intro r hgives
  simp only [List.forall_mem_cons] at hgives
  obtain ⟨hoctaves, hfrequency, hinnerEdge, houterEdge, hsurfaceShell, hfloor, hsalt, -⟩ := hgives
  simp only [hoctaves.value? _ (fun _ _ => word32?_of_states),
    hfrequency.value? _ (fun _ _ => real?_of_states),
    hinnerEdge.value? _ (fun _ _ => real?_of_states),
    houterEdge.value? _ (fun _ _ => real?_of_states),
    hsurfaceShell.value? _ (fun _ _ => real?_of_states),
    hfloor.value? _ (fun _ _ => word32?_of_states), hsalt.value? _ (fun _ _ => word64?_of_states)]
  rfl

theorem CaveCarving.Draft.option? {c : Option CaveCarving.Draft}
    (h : f.StatesOption (CaveCarving.Draft.StatedBy f) c d) :
    f.option? (CaveCarving.ofDocument? f) d = some (c.map (·.complete)) :=
  f.option?_of_states h (fun _ _ => CaveCarving.Draft.read) rfl fun _ => rfl

/-! ## Bands and markers -/

/-- A document that states a material band. -/
def MaterialBand.Draft.StatedBy (f : Form) (b : MaterialBand.Draft) : Document → Prop :=
  f.StatesRecord "MaterialBand"
    [("y_min", some (StatesInt32 b.yMin)), ("y_max", some (StatesInt32 b.yMax)),
      ("depth_min", b.depthMin.map StatesReal),
      ("depth_max", b.depthMax.map (f.StatesOption StatesReal)),
      ("material", some (StatesMaterial f b.material))]

theorem MaterialBand.Draft.read {b : MaterialBand.Draft} (h : b.StatedBy f d) :
    MaterialBand.ofDocument? f d = some b.complete := by
  apply StatesRecord.read h
  intro r hgives
  simp only [List.forall_mem_cons] at hgives
  obtain ⟨hyMin, hyMax, hdepthMin, hdepthMax, hmaterial, -⟩ := hgives
  simp only [hyMin.need? (fun _ => int32?_of_states), hyMax.need? (fun _ => int32?_of_states),
    hdepthMin.value? _ (fun _ _ => real?_of_states),
    hdepthMax.value? _ (fun _ _ => option?_real_of_states),
    hmaterial.need? (fun _ => material?_of_states)]
  rfl

/-- A document that states material bands. -/
def MaterialBands.Draft.StatedBy (f : Form) (b : MaterialBands.Draft) : Document → Prop :=
  f.StatesRecord "MaterialBands"
    [("bands", b.bands.map (StatesList (MaterialBand.Draft.StatedBy f))),
      ("fill", b.fill.map (StatesMaterial f))]

theorem MaterialBands.Draft.read {b : MaterialBands.Draft} (h : b.StatedBy f d) :
    MaterialBands.ofDocument? f d = some b.complete := by
  apply StatesRecord.read h
  intro r hgives
  simp only [List.forall_mem_cons] at hgives
  obtain ⟨hbands, hfill, -⟩ := hgives
  simp only [hbands.getD? _ (fun _ _ h => list?_of_states h fun _ _ => MaterialBand.Draft.read),
    hfill.value? _ (fun _ _ => material?_of_states)]
  rfl

/-- A document that states an ore band. -/
def OreBand.StatedBy (f : Form) (b : OreBand) : Document → Prop :=
  f.StatesRecord "OreBand"
    [("below_y", some (StatesInt32 b.belowY)), ("ore", some (StatesMaterial f b.ore))]

theorem OreBand.read {b : OreBand} (h : b.StatedBy f d) :
    OreBand.ofDocument? f d = some b := by
  apply StatesRecord.read h
  intro r hgives
  simp only [List.forall_mem_cons] at hgives
  obtain ⟨hbelowY, hore, -⟩ := hgives
  simp only [hbelowY.need? (fun _ => int32?_of_states), hore.need? (fun _ => material?_of_states)]
  rfl

/-- A document that states a structure band. -/
def StructureBand.StatedBy (f : Form) (b : StructureBand Quantity) : Document → Prop :=
  f.StatesRecord "StructureBand"
    [("max_depth", some (StatesReal b.maxDepth)),
      ("structure", some (StatesMaterial f b.structure_))]

theorem StructureBand.read {b : StructureBand Quantity} (h : b.StatedBy f d) :
    StructureBand.ofDocument? f d = some b := by
  apply StatesRecord.read h
  intro r hgives
  simp only [List.forall_mem_cons] at hgives
  obtain ⟨hmaxDepth, hstructure, -⟩ := hgives
  simp only [hmaxDepth.need? (fun _ => real?_of_states),
    hstructure.need? (fun _ => material?_of_states)]
  rfl

/-- A document that states markers. -/
def MarkerTable.Draft.StatedBy (f : Form) (t : MarkerTable.Draft) : Document → Prop :=
  f.StatesRecord "MarkerParams"
    [("cave", t.cave.map (f.StatesOption (MarkerChannel.Draft.StatedBy f))),
      ("ore", t.ore.map (f.StatesOption (MarkerChannel.Draft.StatedBy f))),
      ("ore_bands", t.oreBands.map (StatesList (OreBand.StatedBy f))),
      ("water", t.water.map (f.StatesOption (MarkerChannel.Draft.StatedBy f))),
      ("sea_level", t.seaLevel.map StatesInt32),
      ("structure", t.structure_.map (f.StatesOption (MarkerChannel.Draft.StatedBy f))),
      ("structure_bands", t.structureBands.map (StatesList (StructureBand.StatedBy f)))]

theorem MarkerTable.Draft.read {t : MarkerTable.Draft} (h : t.StatedBy f d) :
    MarkerTable.ofDocument? f d = some t.complete := by
  apply StatesRecord.read h
  intro r hgives
  simp only [List.forall_mem_cons] at hgives
  -- the channels may be absent, which is not the same as not given
  obtain ⟨hcave, hore, horeBands, hwater, hseaLevel, hstructure, hstructureBands, -⟩ := hgives
  simp only [hcave.getD? _ (fun _ _ => MarkerChannel.Draft.option?),
    hore.getD? _ (fun _ _ => MarkerChannel.Draft.option?),
    horeBands.value? _ (fun _ _ h => list?_rows_of_states h fun _ _ => OreBand.read),
    hwater.getD? _ (fun _ _ => MarkerChannel.Draft.option?),
    hseaLevel.value? _ (fun _ _ => int32?_of_states),
    hstructure.getD? _ (fun _ _ => MarkerChannel.Draft.option?),
    hstructureBands.value? _ (fun _ _ h => list?_rows_of_states h fun _ _ => StructureBand.read)]
  rfl

/-! ## Dimensions and tables -/

/-- A document that states a dimension. -/
def DimensionTable.Draft.StatedBy (f : Form) (t : DimensionTable.Draft) : Document → Prop :=
  f.StatesRecord "DimensionOverrides"
    [("height", t.height.map (HeightProfile.Draft.StatedBy f)),
      ("ceiling", t.ceiling.map StatesWord32),
      ("caves", t.caves.map (f.StatesOption (CaveCarving.Draft.StatedBy f))),
      ("ripple", t.ripple.map (NoiseLayer.Draft.StatedBy f)),
      ("bands", t.bands.map (MaterialBands.Draft.StatedBy f)),
      ("markers", t.markers.map (MarkerTable.Draft.StatedBy f))]

/-- A section that is given is read as one, and a section that is left out is not given. -/
theorem getD?_present {β γ : Type} {states : β → Document → Prop} {complete : β → γ}
    {read? : Document → Option γ} {r : Fields} {name : String} {given : Option β}
    (h : r.Gives name (given.map states))
    (hread : ∀ v d, states v d → read? d = some (complete v)) :
    r.getD? name none (DimensionOverrides.present read?) = some (given.map complete) := by
  have hpresent (v : β) (d : Document) (hd : states v d) :
      DimensionOverrides.present read? d = some (some (complete v)) :=
    congrArg (Option.map some) (hread v d hd)
  rw [h.getD? none hpresent]
  cases given <;> rfl

/-- The sections that a draft gives, each of them completed. -/
def DimensionTable.Draft.overrides (t : DimensionTable.Draft) : DimensionOverrides where
  height := t.height.map (·.complete)
  ceiling := t.ceiling.map id
  caves := t.caves.map (·.map (·.complete))
  ripple := t.ripple.map (·.complete)
  bands := t.bands.map (·.complete)
  markers := t.markers.map (·.complete)

theorem DimensionTable.Draft.read_overrides {t : DimensionTable.Draft} (h : t.StatedBy f d) :
    DimensionOverrides.ofDocument? f d = some t.overrides := by
  apply StatesRecord.read h
  intro r hgives
  simp only [List.forall_mem_cons] at hgives
  obtain ⟨hheight, hceiling, hcaves, hripple, hbands, hmarkers, -⟩ := hgives
  have hword (v : UInt32) (d : Document) (h : StatesWord32 v d) : word32? d = some (id v) :=
    word32?_of_states h
  simp only [getD?_present hheight (fun _ _ => HeightProfile.Draft.read),
    getD?_present hceiling hword,
    getD?_present hcaves (fun _ _ => CaveCarving.Draft.option?),
    getD?_present hripple (fun _ _ => NoiseLayer.Draft.read),
    getD?_present hbands (fun _ _ => MaterialBands.Draft.read),
    getD?_present hmarkers (fun _ _ => MarkerTable.Draft.read)]
  rfl

theorem DimensionTable.Draft.apply_overrides (dimension : Dimension) (t : DimensionTable.Draft) :
    t.overrides.apply ((DimensionTable.ofDimension dimension).map .ofFloat) =
      t.complete dimension := by
  rw [DimensionOverrides.apply_eq, overrides, Option.map_id]
  rfl

theorem DimensionTable.Draft.read (dimension : Dimension) {t : DimensionTable.Draft}
    (h : t.StatedBy f d) :
    DimensionTable.ofDocument? f dimension d = some (t.complete dimension) := by
  rw [DimensionTable.ofDocument?, read_overrides h, ← apply_overrides]
  rfl

/-- A document that states a climate. -/
def ClimateTable.Draft.StatedBy (f : Form) (c : ClimateTable.Draft) : Document → Prop :=
  f.StatesRecord "BiomeParams"
    [("temperature", c.temperature.map (NoiseChannel.Draft.StatedBy f)),
      ("humidity", c.humidity.map (NoiseChannel.Draft.StatedBy f)),
      ("warm", c.warm.map StatesReal), ("cold", c.cold.map StatesReal),
      ("wet", c.wet.map StatesReal)]

theorem ClimateTable.Draft.read {c : ClimateTable.Draft} (h : c.StatedBy f d) :
    ClimateTable.ofDocument? f d = some c.complete := by
  apply StatesRecord.read h
  intro r hgives
  simp only [List.forall_mem_cons] at hgives
  obtain ⟨htemperature, hhumidity, hwarm, hcold, hwet, -⟩ := hgives
  simp only [htemperature.getD? _ (fun _ _ => NoiseChannel.Draft.read),
    hhumidity.getD? _ (fun _ _ => NoiseChannel.Draft.read),
    hwarm.value? _ (fun _ _ => real?_of_states), hcold.value? _ (fun _ _ => real?_of_states),
    hwet.value? _ (fun _ _ => real?_of_states)]
  rfl

/-- A document that states a smoothing. -/
def SmoothingTable.Draft.StatedBy (f : Form) (s : SmoothingTable.Draft) : Document → Prop :=
  f.StatesRecord "SmoothingParams"
    [("keep_above", s.keepAbove.map StatesReal), ("clear_below", s.clearBelow.map StatesReal)]

theorem SmoothingTable.Draft.read {s : SmoothingTable.Draft} (h : s.StatedBy f d) :
    SmoothingTable.ofDocument? f d = some s.complete := by
  apply StatesRecord.read h
  intro r hgives
  simp only [List.forall_mem_cons] at hgives
  obtain ⟨hkeepAbove, hclearBelow, -⟩ := hgives
  simp only [hkeepAbove.value? _ (fun _ _ => real?_of_states),
    hclearBelow.value? _ (fun _ _ => real?_of_states)]
  rfl

/-- A document that states a table. -/
def Table.Draft.StatedBy (f : Form) (t : Table.Draft) : Document → Prop :=
  f.StatesRecord "TerrainParams"
    [("overworld", t.overworld.map (DimensionTable.Draft.StatedBy f)),
      ("nether", t.nether.map (DimensionTable.Draft.StatedBy f)),
      ("end", t.end_.map (DimensionTable.Draft.StatedBy f)),
      ("biome", t.climate.map (ClimateTable.Draft.StatedBy f)),
      ("smoothing", t.smoothing.map (SmoothingTable.Draft.StatedBy f))]

theorem Table.Draft.read {t : Table.Draft} (h : t.StatedBy f d) :
    Table.ofDocument? f d = some t.complete := by
  apply StatesRecord.read h
  intro r hgives
  simp only [List.forall_mem_cons] at hgives
  obtain ⟨hoverworld, hnether, hend, hclimate, hsmoothing, -⟩ := hgives
  simp only [hoverworld.getD? _ (fun _ _ => DimensionTable.Draft.read .overworld),
    hnether.getD? _ (fun _ _ => DimensionTable.Draft.read .nether),
    hend.getD? _ (fun _ _ => DimensionTable.Draft.read .end_),
    hclimate.getD? _ (fun _ _ => ClimateTable.Draft.read),
    hsmoothing.getD? _ (fun _ _ => SmoothingTable.Draft.read)]
  rfl

/-! ## What reading gives -/

theorem Table.Draft.dimension_complete (t : Table.Draft) (dimension : Dimension) :
    t.complete.dimension dimension =
      ((t.dimension dimension).map (·.complete dimension)).getD
        ((DimensionTable.ofDimension dimension).map .ofFloat) := by
  cases dimension <;> rfl

/-- Every document that states a draft is read, as the table that completes the draft: the values
that are given, a dimension's own section where the dimension leaves out a section, and the default
of a section where the section leaves out a value. Caves that are given as absent are absent.

So it does not matter in which notation and order a draft is stated, and fields of other names do
not matter either: wherever a record states something, so does every record that has the same fields
in any order, with any fields of other names among them. -/
theorem Table.ofDocument?_of_stated (t : Table.Draft) :
    (∀ f d, t.StatedBy f d → Table.ofDocument? f d = some t.complete) ∧
      (∀ dimension, t.complete.dimension dimension =
        match t.dimension dimension with
        | none => (DimensionTable.ofDimension dimension).map .ofFloat
        | some given => given.complete dimension) ∧
      (∀ dimension given, t.dimension dimension = some given →
        (given.caves = some none → (t.complete.dimension dimension).caves = none) ∧
        (given.caves = none → (t.complete.dimension dimension).caves =
          (DimensionTable.ofDimension dimension).caves.map (·.map .ofFloat))) ∧
      ∀ (f : Form) (name : String) (demands : Demands) (given : Option String)
        (entries entries' : List (String × Document)),
        (entries'.filter (demands.names.contains ·.1)).Perm
            (entries.filter (demands.names.contains ·.1)) →
          f.StatesRecord name demands (.record given entries) →
          f.StatesRecord name demands (.record given entries') := by
  refine ⟨fun f d => Table.Draft.read, fun dimension => ?_, fun dimension given hgiven => ?_, ?_⟩
  · rw [t.dimension_complete dimension]
    cases t.dimension dimension <;> rfl
  · rw [t.dimension_complete dimension, hgiven]
    refine ⟨fun hcaves => ?_, fun hcaves => ?_⟩
    · simp only [Option.map_some, Option.getD_some, DimensionTable.Draft.complete, hcaves,
        Option.map_none]
    · simp only [Option.map_some, Option.getD_some, DimensionTable.Draft.complete, hcaves,
        Option.map_none, Option.getD_none]
      rfl
  · intro f name demands given entries entries' hperm h
    exact h.of_perm hperm

/-- A draft of a dimension without caves and with another amplitude of the ripple. -/
def DimensionTable.Draft.caveless (q : Quantity) : DimensionTable.Draft where
  caves := some none
  ripple := some { amplitude := some q }

/-- A document that states it, with an unknown field. -/
def DimensionTable.Draft.cavelessDocument (q : Quantity) : Document :=
  .record none [("ripple", .record none [("wobble", .absent), ("amplitude", .real q)]),
    ("caves", .absent)]

/-- The overworld without caves. A comment stands before it, which is an unknown field. -/
theorem Table.ofDocument?_caveless :
    ({ overworld := some (.caveless (.ofFloat 0.5)) } : Table.Draft).StatedBy .json
        (.record none [("comment", .text "no caves"),
          ("overworld", DimensionTable.Draft.cavelessDocument (.ofFloat 0.5))]) ∧
      Table.ofDocument? .json (.record none [("comment", .text "no caves"),
          ("overworld", DimensionTable.Draft.cavelessDocument (.ofFloat 0.5))]) =
        some ({ overworld := some (.caveless (.ofFloat 0.5)) } : Table.Draft).complete ∧
      (({ overworld := some (.caveless (.ofFloat 0.5)) } : Table.Draft).complete.dimension
        .overworld).caves = none := by
  have hamplitude : StatesReal (.ofFloat 0.5) (.real (.ofFloat 0.5)) := ⟨_, rfl, .inl rfl, rfl⟩
  have hripple : ({ amplitude := some (.ofFloat 0.5) } : NoiseLayer.Draft).StatedBy .json
      (.record none [("wobble", .absent), ("amplitude", .real (.ofFloat 0.5))]) := by
    refine ⟨_, .record (.inr ⟨rfl, rfl⟩), ?_⟩
    simp only [List.forall_mem_cons]
    exact ⟨rfl, rfl, ⟨_, hamplitude, rfl⟩, rfl, nofun⟩
  have hoverworld : (DimensionTable.Draft.caveless (.ofFloat 0.5)).StatedBy .json
      (DimensionTable.Draft.cavelessDocument (.ofFloat 0.5)) := by
    refine ⟨_, .record (.inr ⟨rfl, rfl⟩), ?_⟩
    simp only [List.forall_mem_cons]
    exact ⟨rfl, rfl, ⟨_, .absent, rfl⟩, ⟨_, hripple, rfl⟩, rfl, rfl, nofun⟩
  have htable : ({ overworld := some (.caveless (.ofFloat 0.5)) } : Table.Draft).StatedBy .json
      (.record none [("comment", .text "no caves"),
        ("overworld", DimensionTable.Draft.cavelessDocument (.ofFloat 0.5))]) := by
    refine ⟨_, .record (.inr ⟨rfl, rfl⟩), ?_⟩
    simp only [List.forall_mem_cons]
    exact ⟨⟨_, hoverworld, rfl⟩, rfl, rfl, rfl, rfl, nofun⟩
  obtain ⟨hread, -, hcaves, -⟩ := Table.ofDocument?_of_stated
    { overworld := some (.caveless (.ofFloat 0.5)) }
  exact ⟨htable, hread .json _ htable, (hcaves .overworld _ rfl).1 rfl⟩

end Landform
