import Landform.Document.Form
import Landform.Table.Default
import Landform.Table.Map

/-! # Reading tables

A document may leave out any part of a table. A dimension that leaves out a section keeps that
dimension's own section; a section that leaves out a value takes the section's default. Rows of band
tables have no defaults, apart from the depths of material bands. -/

namespace Landform

variable (f : Form)

/-- Reads a layer. -/
def NoiseLayer.ofDocument? (d : Document) : Option (NoiseLayer Quantity) := do
  let r ← f.record? "NoiseLayer" ["octaves", "frequency", "amplitude", "seed_offset"] d
  let z : NoiseLayer Quantity := NoiseLayer.default.map .ofFloat
  pure
    { octaves := ← r.getD? "octaves" z.octaves Form.word32?
      frequency := ← r.getD? "frequency" z.frequency Form.real?
      amplitude := ← r.getD? "amplitude" z.amplitude Form.real?
      salt := ← r.getD? "seed_offset" z.salt Form.word64? }

/-- Reads ridges. -/
def RidgeLayer.ofDocument? (d : Document) : Option (RidgeLayer Quantity) := do
  let r ← f.record? "RidgeLayer"
    ["octaves", "frequency", "amplitude", "sharpness", "seed_offset"] d
  let z : RidgeLayer Quantity := RidgeLayer.default.map .ofFloat
  pure
    { octaves := ← r.getD? "octaves" z.octaves Form.word32?
      frequency := ← r.getD? "frequency" z.frequency Form.real?
      amplitude := ← r.getD? "amplitude" z.amplitude Form.real?
      sharpness := ← r.getD? "sharpness" z.sharpness Form.real?
      salt := ← r.getD? "seed_offset" z.salt Form.word64? }

/-- Reads a channel. -/
def NoiseChannel.ofDocument? (d : Document) : Option (NoiseChannel Quantity) := do
  let r ← f.record? "NoiseChannel" ["octaves", "frequency", "seed_offset"] d
  let z : NoiseChannel Quantity := NoiseChannel.default.map .ofFloat
  pure
    { octaves := ← r.getD? "octaves" z.octaves Form.word32?
      frequency := ← r.getD? "frequency" z.frequency Form.real?
      salt := ← r.getD? "seed_offset" z.salt Form.word64? }

/-- Reads a marker channel. -/
def MarkerChannel.ofDocument? (d : Document) : Option (MarkerChannel Quantity) := do
  let r ← f.record? "MarkerChannel" ["octaves", "frequency", "threshold", "seed_offset"] d
  let z : MarkerChannel Quantity := MarkerChannel.default.map .ofFloat
  pure
    { octaves := ← r.getD? "octaves" z.octaves Form.word32?
      frequency := ← r.getD? "frequency" z.frequency Form.real?
      threshold := ← r.getD? "threshold" z.threshold Form.real?
      salt := ← r.getD? "seed_offset" z.salt Form.word64? }

/-- Reads a profile. -/
def HeightProfile.ofDocument? (d : Document) : Option (HeightProfile Quantity) := do
  let r ← f.record? "HeightProfile" ["base", "layers", "ridge", "min_height", "max_height"] d
  let z : HeightProfile Quantity := HeightProfile.default.map .ofFloat
  pure
    { base := ← r.getD? "base" z.base Form.real?
      layers := ← r.getD? "layers" z.layers (Form.list? (NoiseLayer.ofDocument? f))
      ridge := ← r.getD? "ridge" z.ridge (f.option? (RidgeLayer.ofDocument? f))
      minHeight := ← r.getD? "min_height" z.minHeight Form.real?
      maxHeight := ← r.getD? "max_height" z.maxHeight Form.real? }

/-- Reads a carving. -/
def CaveCarving.ofDocument? (d : Document) : Option (CaveCarving Quantity) := do
  let r ← f.record? "CaveCarving" ["octaves", "frequency", "inner_edge", "outer_edge",
    "surface_shell", "floor", "seed_offset"] d
  let z : CaveCarving Quantity := CaveCarving.default.map .ofFloat
  pure
    { octaves := ← r.getD? "octaves" z.octaves Form.word32?
      frequency := ← r.getD? "frequency" z.frequency Form.real?
      innerEdge := ← r.getD? "inner_edge" z.innerEdge Form.real?
      outerEdge := ← r.getD? "outer_edge" z.outerEdge Form.real?
      surfaceShell := ← r.getD? "surface_shell" z.surfaceShell Form.real?
      floor := ← r.getD? "floor" z.floor Form.word32?
      salt := ← r.getD? "seed_offset" z.salt Form.word64? }

/-- Reads a material band. -/
def MaterialBand.ofDocument? (d : Document) : Option (MaterialBand Quantity) := do
  let r ← f.record? "MaterialBand" ["y_min", "y_max", "depth_min", "depth_max", "material"] d
  pure
    { yMin := ← r.need? "y_min" Form.int32?
      yMax := ← r.need? "y_max" Form.int32?
      depthMin := ← r.getD? "depth_min" (.ofFloat 0) Form.real?
      depthMax := ← r.getD? "depth_max" none (f.option? Form.real?)
      material := ← r.need? "material" (f.choice? Material.ofWord?) }

/-- Reads the material bands of a dimension. -/
def MaterialBands.ofDocument? (d : Document) : Option (MaterialBands Quantity) := do
  let r ← f.record? "MaterialBands" ["bands", "fill"] d
  let z : MaterialBands Quantity := MaterialBands.default.map .ofFloat
  pure
    { bands := ← r.getD? "bands" z.bands (Form.list? (MaterialBand.ofDocument? f))
      fill := ← r.getD? "fill" z.fill (f.choice? Material.ofWord?) }

/-- Reads an ore band. -/
def OreBand.ofDocument? (d : Document) : Option OreBand := do
  let r ← f.record? "OreBand" ["below_y", "ore"] d
  pure
    { belowY := ← r.need? "below_y" Form.int32?
      ore := ← r.need? "ore" (f.choice? Material.ofWord?) }

/-- Reads a structure band. -/
def StructureBand.ofDocument? (d : Document) : Option (StructureBand Quantity) := do
  let r ← f.record? "StructureBand" ["max_depth", "structure"] d
  pure
    { maxDepth := ← r.need? "max_depth" Form.real?
      structure_ := ← r.need? "structure" (f.choice? Material.ofWord?) }

/-- Reads the markers of a dimension. -/
def MarkerTable.ofDocument? (d : Document) : Option (MarkerTable Quantity) := do
  let r ← f.record? "MarkerParams" ["cave", "ore", "ore_bands", "water", "sea_level", "structure",
    "structure_bands"] d
  let z : MarkerTable Quantity := MarkerTable.default.map .ofFloat
  let channel? := f.option? (MarkerChannel.ofDocument? f)
  pure
    { cave := ← r.getD? "cave" z.cave channel?
      ore := ← r.getD? "ore" z.ore channel?
      oreBands := ← r.getD? "ore_bands" z.oreBands (Form.list? (OreBand.ofDocument? f))
      water := ← r.getD? "water" z.water channel?
      seaLevel := ← r.getD? "sea_level" z.seaLevel Form.int32?
      structure_ := ← r.getD? "structure" z.structure_ channel?
      structureBands :=
        ← r.getD? "structure_bands" z.structureBands (Form.list? (StructureBand.ofDocument? f)) }

/-- The sections that a document gives of one dimension. Caves that are given can be absent. -/
structure DimensionOverrides where
  height : Option (HeightProfile Quantity)
  ceiling : Option UInt32
  caves : Option (Option (CaveCarving Quantity))
  ripple : Option (NoiseLayer Quantity)
  bands : Option (MaterialBands Quantity)
  markers : Option (MarkerTable Quantity)

namespace DimensionOverrides

/-- Reads a section that is given. -/
def present {β : Type} (read? : Document → Option β) (d : Document) : Option (Option β) :=
  (read? d).map some

/-- Reads the sections that are given. -/
def ofDocument? (d : Document) : Option DimensionOverrides := do
  let r ← f.record? "DimensionOverrides"
    ["height", "ceiling", "caves", "ripple", "bands", "markers"] d
  pure
    { height := ← r.getD? "height" none (present (HeightProfile.ofDocument? f))
      ceiling := ← r.getD? "ceiling" none (present Form.word32?)
      caves := ← r.getD? "caves" none (present (f.option? (CaveCarving.ofDocument? f)))
      ripple := ← r.getD? "ripple" none (present (NoiseLayer.ofDocument? f))
      bands := ← r.getD? "bands" none (present (MaterialBands.ofDocument? f))
      markers := ← r.getD? "markers" none (present (MarkerTable.ofDocument? f)) }

/-- Puts the sections that are given in the place of those of a dimension, one after the other. -/
def apply (o : DimensionOverrides) (t : DimensionTable Quantity) : DimensionTable Quantity :=
  let t := match o.height with | some height => { t with height } | none => t
  let t := match o.ceiling with | some ceiling => { t with ceiling } | none => t
  let t := match o.caves with | some caves => { t with caves } | none => t
  let t := match o.ripple with | some ripple => { t with ripple } | none => t
  let t := match o.bands with | some bands => { t with bands } | none => t
  match o.markers with | some markers => { t with markers } | none => t

/-- Every section is the one that is given, or else the one of the dimension. -/
theorem apply_eq (o : DimensionOverrides) (t : DimensionTable Quantity) :
    o.apply t =
      { height := o.height.getD t.height
        ceiling := o.ceiling.getD t.ceiling
        caves := o.caves.getD t.caves
        ripple := o.ripple.getD t.ripple
        bands := o.bands.getD t.bands
        markers := o.markers.getD t.markers } := by
  obtain ⟨height, ceiling, caves, ripple, bands, markers⟩ := o
  cases height <;> cases ceiling <;> cases caves <;> cases ripple <;> cases bands <;>
    cases markers <;> rfl

end DimensionOverrides

/-- Reads one dimension, over its own default. -/
def DimensionTable.ofDocument? (dimension : Dimension) (d : Document) :
    Option (DimensionTable Quantity) := do
  let o ← DimensionOverrides.ofDocument? f d
  pure (o.apply ((DimensionTable.ofDimension dimension).map .ofFloat))

/-- Reads the climate. -/
def ClimateTable.ofDocument? (d : Document) : Option (ClimateTable Quantity) := do
  let r ← f.record? "BiomeParams" ["temperature", "humidity", "warm", "cold", "wet"] d
  let z : ClimateTable Quantity := ClimateTable.default.map .ofFloat
  pure
    { temperature := ← r.getD? "temperature" z.temperature (NoiseChannel.ofDocument? f)
      humidity := ← r.getD? "humidity" z.humidity (NoiseChannel.ofDocument? f)
      warm := ← r.getD? "warm" z.warm Form.real?
      cold := ← r.getD? "cold" z.cold Form.real?
      wet := ← r.getD? "wet" z.wet Form.real? }

/-- Reads the smoothing. -/
def SmoothingTable.ofDocument? (d : Document) : Option (SmoothingTable Quantity) := do
  let r ← f.record? "SmoothingParams" ["keep_above", "clear_below"] d
  let z : SmoothingTable Quantity := SmoothingTable.default.map .ofFloat
  pure
    { keepAbove := ← r.getD? "keep_above" z.keepAbove Form.real?
      clearBelow := ← r.getD? "clear_below" z.clearBelow Form.real? }

/-- Reads a table. -/
def Table.ofDocument? (d : Document) : Option (Table Quantity) := do
  let r ← f.record? "TerrainParams" ["overworld", "nether", "end", "biome", "smoothing"] d
  let z : Table Quantity := Table.default.map .ofFloat
  pure
    { overworld :=
        ← r.getD? "overworld" z.overworld (DimensionTable.ofDocument? f .overworld)
      nether := ← r.getD? "nether" z.nether (DimensionTable.ofDocument? f .nether)
      end_ := ← r.getD? "end" z.end_ (DimensionTable.ofDocument? f .end_)
      climate := ← r.getD? "biome" z.climate (ClimateTable.ofDocument? f)
      smoothing := ← r.getD? "smoothing" z.smoothing (SmoothingTable.ofDocument? f) }

/-- The options of a dimension, by the names of the fields around them. -/
def DimensionTable.optionPaths : List (List String) :=
  [["height", "ridge"], ["caves"], ["bands", "bands", "", "depth_max"], ["markers", "cave"],
    ["markers", "ore"], ["markers", "water"], ["markers", "structure"]]

/-- The options of a table. -/
def Table.optionPaths : List (List String) :=
  ["overworld", "nether", "end"].flatMap fun d => DimensionTable.optionPaths.map (d :: ·)

/-- Reads a table from RON text. -/
def Table.ofRon? (s : String) : Option (Table Quantity) := do
  let (e, d) ← Ron.read? optionPaths s
  Table.ofDocument? (.ron e) d

end Landform
