import Landform.Proofs.Table.Partial
import Landform.Table.Write

/-! # Whole tables

A table as a document states every value of the table. So the document is read as the table,
whatever the defaults are. -/

namespace Landform

open Form

namespace Form

variable {f : Form}

/-- A field that is there has the value that is stated, whatever the default is. -/
theorem Fields.Gives.given? {r : Fields} {name : String} {β : Type} {v : β}
    {read? : Document → Option β} {states : Document → Prop} (h : r.Gives name (some states))
    (default : β) (hread : ∀ d, states d → read? d = some v) :
    r.getD? name default read? = some v := by
  obtain ⟨d, hget, hd⟩ := h.get?_eq_some
  rw [Fields.getD?, hget]
  exact hread d hd

/-- The same, of a field that is known. -/
theorem Fields.Gives.given?_eq {r : Fields} {name : String} {β : Type} {v : β} {written : Document}
    {read? : Document → Option β} (h : r.Gives name (some (· = written))) (default : β)
    (hread : read? written = some v) : r.getD? name default read? = some v := by
  apply h.given?
  rintro d rfl
  exact hread

/-- A field answers what is asked: it has the name, and its value states what it should. -/
structure Answers (demand : String × Option (Document → Prop)) (entry : String × Document) :
    Prop where
  name : demand.1 = entry.1
  states : ∃ states ∈ demand.2, states entry.2

theorem Answers.of {name : String} {states : Document → Prop} {d : Document} (h : states d) :
    Answers (name, some states) (name, d) := ⟨rfl, states, rfl, h⟩

/-- A record whose fields answer what is asked, in that order. -/
theorem StatesRecord.of_answers {name : String} {demands : Demands}
    {entries : List (String × Document)} (hf : f.namedRecords = false)
    (hnames : (demands.map (·.1)).Nodup) (h : List.Forall₂ Answers demands entries) :
    f.StatesRecord name demands (.fields entries) := by
  refine ⟨⟨entries⟩, .record (.inr ⟨rfl, hf⟩), ?_⟩
  -- no name comes twice, so each demand is met by its own entry and by no other
  induction h with
  | nil => exact nofun
  | @cons p e demands entries hpe hrest ih =>
    have hsame : demands.map (·.1) = entries.map (·.1) :=
      List.forall₂_eq_eq_eq ▸ List.forall₂_map_left_iff.mpr
        (List.forall₂_map_right_iff.mpr (hrest.imp fun _ _ hpe => hpe.name))
    obtain ⟨hfresh, htail⟩ := List.nodup_cons.mp hnames
    obtain ⟨name, demand⟩ := p
    obtain ⟨name', d⟩ := e
    obtain ⟨rfl, states, hstates, hd⟩ := hpe
    obtain rfl : demand = some states := hstates
    rw [List.forall_mem_cons]
    refine ⟨⟨d, hd, ?_⟩, fun q hq => ?_⟩
    · have hnone : entries.filter (·.1 == name) = [] := by
        rw [List.filter_eq_nil_iff]
        intro e he heq
        refine hfresh ?_
        change name ∈ demands.map (·.1)
        rw [hsame, ← eq_of_beq heq]
        exact List.mem_map_of_mem he
      rw [List.filter_cons_of_pos (by simp), hnone]
    · have hne : name ≠ q.1 := by
        intro heq
        refine hfresh ?_
        change name ∈ demands.map (·.1)
        rw [heq]
        exact List.mem_map_of_mem hq
      have hq' := ih htail q hq
      have hskip : (((name, d) :: entries).filter (·.1 == q.1)) = entries.filter (·.1 == q.1) :=
        List.filter_cons_of_neg (by simpa using hne)
      unfold Fields.Gives at hq' ⊢
      rw [hskip]
      exact hq'

end Form

/-! ## Plain values -/

theorem statesWord32 (v : UInt32) : StatesWord32 v (.integer v.toNat) := ⟨_, rfl, .inl rfl, rfl⟩

theorem statesWord64 (v : UInt64) : StatesWord64 v (.integer v.toNat) := ⟨_, rfl, .inl rfl, rfl⟩

theorem statesInt32 (v : Int32) : StatesInt32 v (.integer v.toInt) := ⟨_, rfl, .inl rfl, rfl⟩

theorem statesReal (q : Quantity) : StatesReal q (.real q) := ⟨_, rfl, .inl rfl, rfl⟩

theorem statesOption (f : Form) {β γ : Type} {g : γ → β} {states : β → Document → Prop}
    {write : γ → Document} (h : ∀ v, states (g v) (write v)) :
    ∀ o : Option γ, f.StatesOption states (o.map g) (.ofOption write o)
  | none => .absent
  | some v => .present (h v)

theorem statesList {β γ : Type} {g : γ → β} {states : β → Document → Prop} {write : γ → Document}
    (h : ∀ v, states (g v) (write v)) (vs : List γ) :
    StatesList states (vs.map g) (.list (vs.map write)) := by
  refine ⟨_, rfl, ?_⟩
  induction vs with
  | nil => exact .nil
  | cons v vs ih => exact .cons (h v) ih

theorem statesRows {β : Type} {states : β → Document → Prop} {write : β → Document}
    (h : ∀ v, states v (write v)) (vs : List β) : StatesList states vs (.list (vs.map write)) := by
  have hlist := statesList (g := id) h vs
  rw [List.map_id] at hlist
  exact hlist

theorem statesOption_real (f : Form) : ∀ o : Option Quantity,
    f.StatesOption StatesReal o (.ofOption .real o)
  | none => .absent
  | some q => .present (statesReal q)

theorem map_complete {β γ : Type} {g : γ → β} {complete : β → γ} (h : ∀ v, complete (g v) = v) :
    (∀ vs : List γ, (vs.map g).map complete = vs) ∧ ∀ o : Option γ, (o.map g).map complete = o := by
  have hid : complete ∘ g = id := funext h
  exact ⟨fun vs => by rw [List.map_map, hid, List.map_id],
    fun o => by rw [Option.map_map, hid, Option.map_id]; rfl⟩

/-! ## Everything given -/

/-- The draft that gives all of a layer. -/
def NoiseLayer.draft (l : NoiseLayer Quantity) : NoiseLayer.Draft :=
  ⟨some l.octaves, some l.frequency, some l.amplitude, some l.salt⟩

/-- The draft that gives all of ridges. -/
def RidgeLayer.draft (l : RidgeLayer Quantity) : RidgeLayer.Draft :=
  ⟨some l.octaves, some l.frequency, some l.amplitude, some l.sharpness, some l.salt⟩

/-- The draft that gives all of a channel. -/
def NoiseChannel.draft (c : NoiseChannel Quantity) : NoiseChannel.Draft :=
  ⟨some c.octaves, some c.frequency, some c.salt⟩

/-- The draft that gives all of a marker channel. -/
def MarkerChannel.draft (c : MarkerChannel Quantity) : MarkerChannel.Draft :=
  ⟨some c.octaves, some c.frequency, some c.threshold, some c.salt⟩

/-- The draft that gives all of a profile. -/
def HeightProfile.draft (p : HeightProfile Quantity) : HeightProfile.Draft :=
  ⟨some p.base, some (p.layers.map (·.draft)), some (p.ridge.map (·.draft)), some p.minHeight,
    some p.maxHeight⟩

/-- The draft that gives all of a carving. -/
def CaveCarving.draft (c : CaveCarving Quantity) : CaveCarving.Draft :=
  ⟨some c.octaves, some c.frequency, some c.innerEdge, some c.outerEdge, some c.surfaceShell, some
    c.floor, some c.salt⟩

/-- The draft that gives all of a material band. -/
def MaterialBand.draft (b : MaterialBand Quantity) : MaterialBand.Draft :=
  ⟨b.yMin, b.yMax, some b.depthMin, some b.depthMax, b.material⟩

/-- The draft that gives all of the material bands of a dimension. -/
def MaterialBands.draft (b : MaterialBands Quantity) : MaterialBands.Draft :=
  ⟨some (b.bands.map (·.draft)), some b.fill⟩

/-- The draft that gives all of the markers of a dimension. -/
def MarkerTable.draft (t : MarkerTable Quantity) : MarkerTable.Draft :=
  ⟨some (t.cave.map (·.draft)), some (t.ore.map (·.draft)), some t.oreBands, some (t.water.map
    (·.draft)), some t.seaLevel, some (t.structure_.map (·.draft)), some t.structureBands⟩

/-- The draft that gives all of a dimension. -/
def DimensionTable.draft (t : DimensionTable Quantity) : DimensionTable.Draft :=
  ⟨some t.height.draft, some t.ceiling, some (t.caves.map (·.draft)), some t.ripple.draft, some
    t.bands.draft, some t.markers.draft⟩

/-- The draft that gives all of the climate. -/
def ClimateTable.draft (c : ClimateTable Quantity) : ClimateTable.Draft :=
  ⟨some c.temperature.draft, some c.humidity.draft, some c.warm, some c.cold, some c.wet⟩

/-- The draft that gives all of the smoothing. -/
def SmoothingTable.draft (s : SmoothingTable Quantity) : SmoothingTable.Draft :=
  ⟨some s.keepAbove, some s.clearBelow⟩

/-- The draft that gives all of a table. -/
def Table.draft (t : Table Quantity) : Table.Draft :=
  ⟨some t.overworld.draft, some t.nether.draft, some t.end_.draft, some t.climate.draft, some
    t.smoothing.draft⟩

theorem NoiseLayer.complete_draft (l : NoiseLayer Quantity) : l.draft.complete = l := rfl

theorem RidgeLayer.complete_draft (l : RidgeLayer Quantity) : l.draft.complete = l := rfl

theorem NoiseChannel.complete_draft (c : NoiseChannel Quantity) : c.draft.complete = c := rfl

theorem MarkerChannel.complete_draft (c : MarkerChannel Quantity) : c.draft.complete = c := rfl

theorem HeightProfile.complete_draft (p : HeightProfile Quantity) : p.draft.complete = p := by
  change HeightProfile.mk _ ((p.layers.map NoiseLayer.draft).map NoiseLayer.Draft.complete)
    ((p.ridge.map RidgeLayer.draft).map RidgeLayer.Draft.complete) _ _ = p
  rw [(map_complete NoiseLayer.complete_draft).1, (map_complete RidgeLayer.complete_draft).2]
  rfl

theorem CaveCarving.complete_draft (c : CaveCarving Quantity) : c.draft.complete = c := rfl

theorem MaterialBand.complete_draft (b : MaterialBand Quantity) : b.draft.complete = b := rfl

theorem MaterialBands.complete_draft (b : MaterialBands Quantity) : b.draft.complete = b := by
  change MaterialBands.mk ((b.bands.map MaterialBand.draft).map MaterialBand.Draft.complete) _ = b
  rw [(map_complete MaterialBand.complete_draft).1]
  rfl

theorem MarkerTable.complete_draft (t : MarkerTable Quantity) : t.draft.complete = t := by
  have hchannel := (map_complete MarkerChannel.complete_draft).2
  change MarkerTable.mk ((t.cave.map MarkerChannel.draft).map MarkerChannel.Draft.complete)
    ((t.ore.map MarkerChannel.draft).map MarkerChannel.Draft.complete) _
    ((t.water.map MarkerChannel.draft).map MarkerChannel.Draft.complete) _
    ((t.structure_.map MarkerChannel.draft).map MarkerChannel.Draft.complete) _ = t
  simp only [hchannel]
  rfl

theorem DimensionTable.complete_draft (dimension : Dimension) (t : DimensionTable Quantity) :
    t.draft.complete dimension = t := by
  change DimensionTable.mk t.height.draft.complete _
    ((t.caves.map CaveCarving.draft).map CaveCarving.Draft.complete) t.ripple.draft.complete
    t.bands.draft.complete t.markers.draft.complete = t
  rw [HeightProfile.complete_draft, (map_complete CaveCarving.complete_draft).2,
    NoiseLayer.complete_draft, MaterialBands.complete_draft, MarkerTable.complete_draft]
  rfl

theorem ClimateTable.complete_draft (c : ClimateTable Quantity) : c.draft.complete = c := rfl

theorem SmoothingTable.complete_draft (s : SmoothingTable Quantity) : s.draft.complete = s := rfl

theorem Table.complete_draft (t : Table Quantity) : t.draft.complete = t := by
  change Table.mk (t.overworld.draft.complete .overworld) (t.nether.draft.complete .nether)
    (t.end_.draft.complete .end_) t.climate.draft.complete t.smoothing.draft.complete = t
  rw [DimensionTable.complete_draft, DimensionTable.complete_draft, DimensionTable.complete_draft,
    ClimateTable.complete_draft, SmoothingTable.complete_draft]

/-! ## Documents -/

section Documents

variable {f : Form} (hf : f.namedRecords = false) (hwords : f.quotedWords = false)

include hf

theorem NoiseLayer.statedBy (l : NoiseLayer Quantity) : l.draft.StatedBy f l.toDocument := by
  apply StatesRecord.of_answers hf
  · simp
  · simp only [List.forall₂_cons]
    exact ⟨.of (statesWord32 _), .of (statesReal _), .of (statesReal _), .of (statesWord64 _), .nil⟩

theorem RidgeLayer.statedBy (l : RidgeLayer Quantity) : l.draft.StatedBy f l.toDocument := by
  apply StatesRecord.of_answers hf
  · simp
  · simp only [List.forall₂_cons]
    exact ⟨.of (statesWord32 _), .of (statesReal _), .of (statesReal _), .of (statesReal _),
      .of (statesWord64 _), .nil⟩

theorem NoiseChannel.statedBy (c : NoiseChannel Quantity) : c.draft.StatedBy f c.toDocument := by
  apply StatesRecord.of_answers hf
  · simp
  · simp only [List.forall₂_cons]
    exact ⟨.of (statesWord32 _), .of (statesReal _), .of (statesWord64 _), .nil⟩

theorem MarkerChannel.statedBy (c : MarkerChannel Quantity) : c.draft.StatedBy f c.toDocument := by
  apply StatesRecord.of_answers hf
  · simp
  · simp only [List.forall₂_cons]
    exact ⟨.of (statesWord32 _), .of (statesReal _), .of (statesReal _), .of (statesWord64 _), .nil⟩

theorem HeightProfile.statedBy (p : HeightProfile Quantity) : p.draft.StatedBy f p.toDocument := by
  apply StatesRecord.of_answers hf
  · simp
  · simp only [List.forall₂_cons]
    exact ⟨.of (statesReal _), .of (statesList (NoiseLayer.statedBy hf) _),
      .of (statesOption f (RidgeLayer.statedBy hf) _), .of (statesReal _), .of (statesReal _), .nil⟩

theorem CaveCarving.statedBy (c : CaveCarving Quantity) : c.draft.StatedBy f c.toDocument := by
  apply StatesRecord.of_answers hf
  · simp
  · simp only [List.forall₂_cons]
    exact ⟨.of (statesWord32 _), .of (statesReal _), .of (statesReal _), .of (statesReal _),
      .of (statesReal _), .of (statesWord32 _), .of (statesWord64 _), .nil⟩

theorem ClimateTable.statedBy (c : ClimateTable Quantity) : c.draft.StatedBy f c.toDocument := by
  apply StatesRecord.of_answers hf
  · simp
  · simp only [List.forall₂_cons]
    exact ⟨.of (NoiseChannel.statedBy hf _), .of (NoiseChannel.statedBy hf _), .of (statesReal _),
      .of (statesReal _), .of (statesReal _), .nil⟩

theorem SmoothingTable.statedBy (s : SmoothingTable Quantity) :
    s.draft.StatedBy f s.toDocument := by
  apply StatesRecord.of_answers hf
  · simp
  · simp only [List.forall₂_cons]
    exact ⟨.of (statesReal _), .of (statesReal _), .nil⟩

include hwords

theorem MaterialBand.statedBy (b : MaterialBand Quantity) : b.draft.StatedBy f b.toDocument := by
  apply StatesRecord.of_answers hf
  · simp
  · simp only [List.forall₂_cons]
    exact ⟨.of (statesInt32 _), .of (statesInt32 _), .of (statesReal _),
      .of (statesOption_real f _), .of (.plain hwords), .nil⟩

theorem MaterialBands.statedBy (b : MaterialBands Quantity) : b.draft.StatedBy f b.toDocument := by
  apply StatesRecord.of_answers hf
  · simp
  · simp only [List.forall₂_cons]
    exact ⟨.of (statesList (MaterialBand.statedBy hf hwords) _), .of (.plain hwords), .nil⟩

theorem OreBand.statedBy (b : OreBand) : b.StatedBy f b.toDocument := by
  apply StatesRecord.of_answers hf
  · simp
  · simp only [List.forall₂_cons]
    exact ⟨.of (statesInt32 _), .of (.plain hwords), .nil⟩

theorem StructureBand.statedBy (b : StructureBand Quantity) : b.StatedBy f b.toDocument := by
  apply StatesRecord.of_answers hf
  · simp
  · simp only [List.forall₂_cons]
    exact ⟨.of (statesReal _), .of (.plain hwords), .nil⟩

theorem MarkerTable.statedBy (t : MarkerTable Quantity) : t.draft.StatedBy f t.toDocument := by
  apply StatesRecord.of_answers hf
  · simp
  · simp only [List.forall₂_cons]
    exact ⟨.of (statesOption f (MarkerChannel.statedBy hf) _),
      .of (statesOption f (MarkerChannel.statedBy hf) _),
      .of (statesRows (OreBand.statedBy hf hwords) _),
      .of (statesOption f (MarkerChannel.statedBy hf) _), .of (statesInt32 _),
      .of (statesOption f (MarkerChannel.statedBy hf) _),
      .of (statesRows (StructureBand.statedBy hf hwords) _), .nil⟩

theorem DimensionTable.statedBy (t : DimensionTable Quantity) :
    t.draft.StatedBy f t.toDocument := by
  apply StatesRecord.of_answers hf
  · simp
  · simp only [List.forall₂_cons]
    exact ⟨.of (HeightProfile.statedBy hf _), .of (statesWord32 _),
      .of (statesOption f (CaveCarving.statedBy hf) _), .of (NoiseLayer.statedBy hf _),
      .of (MaterialBands.statedBy hf hwords _), .of (MarkerTable.statedBy hf hwords _), .nil⟩

theorem Table.statedBy (t : Table Quantity) : t.draft.StatedBy f t.toDocument := by
  apply StatesRecord.of_answers hf
  · simp
  · simp only [List.forall₂_cons]
    exact ⟨.of (DimensionTable.statedBy hf hwords _), .of (DimensionTable.statedBy hf hwords _),
      .of (DimensionTable.statedBy hf hwords _), .of (ClimateTable.statedBy hf _),
      .of (SmoothingTable.statedBy hf _), .nil⟩

/-- A table is read from its document. -/
theorem Table.read_toDocument (t : Table Quantity) : Table.ofDocument? f t.toDocument = some t := by
  rw [Table.Draft.read (t.statedBy hf hwords), t.complete_draft]

end Documents

end Landform
