import Landform.Table.Default
import Landform.Table.Map

/-! # Drafts of tables

A draft gives any part of a table. What it leaves out depends on where it is left out: a whole
section of a dimension is that dimension's own, and a value inside a section is the section's
default. Rows of band tables are given in full, apart from the depths of material bands. -/

namespace Landform

/-! ## Noise -/

/-- What is given of a layer. -/
structure NoiseLayer.Draft where
  octaves : Option UInt32 := none
  frequency : Option Quantity := none
  amplitude : Option Quantity := none
  salt : Option UInt64 := none

/-- The layer, with defaults for what is not given. -/
def NoiseLayer.Draft.complete (l : NoiseLayer.Draft) : NoiseLayer Quantity :=
  let z : NoiseLayer Quantity := NoiseLayer.default.map .ofFloat
  { octaves := l.octaves.getD z.octaves
    frequency := l.frequency.getD z.frequency
    amplitude := l.amplitude.getD z.amplitude
    salt := l.salt.getD z.salt }

/-- What is given of ridges. -/
structure RidgeLayer.Draft where
  octaves : Option UInt32 := none
  frequency : Option Quantity := none
  amplitude : Option Quantity := none
  sharpness : Option Quantity := none
  salt : Option UInt64 := none

/-- The ridges, with defaults for what is not given. -/
def RidgeLayer.Draft.complete (l : RidgeLayer.Draft) : RidgeLayer Quantity :=
  let z : RidgeLayer Quantity := RidgeLayer.default.map .ofFloat
  { octaves := l.octaves.getD z.octaves
    frequency := l.frequency.getD z.frequency
    amplitude := l.amplitude.getD z.amplitude
    sharpness := l.sharpness.getD z.sharpness
    salt := l.salt.getD z.salt }

/-- What is given of a channel. -/
structure NoiseChannel.Draft where
  octaves : Option UInt32 := none
  frequency : Option Quantity := none
  salt : Option UInt64 := none

/-- The channel, with defaults for what is not given. -/
def NoiseChannel.Draft.complete (c : NoiseChannel.Draft) : NoiseChannel Quantity :=
  let z : NoiseChannel Quantity := NoiseChannel.default.map .ofFloat
  { octaves := c.octaves.getD z.octaves
    frequency := c.frequency.getD z.frequency
    salt := c.salt.getD z.salt }

/-- What is given of a marker channel. -/
structure MarkerChannel.Draft where
  octaves : Option UInt32 := none
  frequency : Option Quantity := none
  threshold : Option Quantity := none
  salt : Option UInt64 := none

/-- The marker channel, with defaults for what is not given. -/
def MarkerChannel.Draft.complete (c : MarkerChannel.Draft) : MarkerChannel Quantity :=
  let z : MarkerChannel Quantity := MarkerChannel.default.map .ofFloat
  { octaves := c.octaves.getD z.octaves
    frequency := c.frequency.getD z.frequency
    threshold := c.threshold.getD z.threshold
    salt := c.salt.getD z.salt }

/-! ## Heights and caves -/

/-- What is given of a profile. -/
structure HeightProfile.Draft where
  base : Option Quantity := none
  layers : Option (List NoiseLayer.Draft) := none
  /-- Ridges can be left out, and they can be given as absent. -/
  ridge : Option (Option RidgeLayer.Draft) := none
  minHeight : Option Quantity := none
  maxHeight : Option Quantity := none

/-- The profile, with defaults for what is not given. -/
def HeightProfile.Draft.complete (h : HeightProfile.Draft) : HeightProfile Quantity :=
  let z : HeightProfile Quantity := HeightProfile.default.map .ofFloat
  { base := h.base.getD z.base
    layers := (h.layers.map (·.map (·.complete))).getD z.layers
    ridge := (h.ridge.map (·.map (·.complete))).getD z.ridge
    minHeight := h.minHeight.getD z.minHeight
    maxHeight := h.maxHeight.getD z.maxHeight }

/-- What is given of a carving. -/
structure CaveCarving.Draft where
  octaves : Option UInt32 := none
  frequency : Option Quantity := none
  innerEdge : Option Quantity := none
  outerEdge : Option Quantity := none
  surfaceShell : Option Quantity := none
  floor : Option UInt32 := none
  salt : Option UInt64 := none

/-- The carving, with defaults for what is not given. -/
def CaveCarving.Draft.complete (c : CaveCarving.Draft) : CaveCarving Quantity :=
  let z : CaveCarving Quantity := CaveCarving.default.map .ofFloat
  { octaves := c.octaves.getD z.octaves
    frequency := c.frequency.getD z.frequency
    innerEdge := c.innerEdge.getD z.innerEdge
    outerEdge := c.outerEdge.getD z.outerEdge
    surfaceShell := c.surfaceShell.getD z.surfaceShell
    floor := c.floor.getD z.floor
    salt := c.salt.getD z.salt }

/-! ## Bands and markers -/

/-- What is given of a material band. -/
structure MaterialBand.Draft where
  yMin : Int32
  yMax : Int32
  depthMin : Option Quantity := none
  depthMax : Option (Option Quantity) := none
  material : Material

/-- The band; it starts at the surface and has no end unless something else is given. -/
def MaterialBand.Draft.complete (b : MaterialBand.Draft) : MaterialBand Quantity :=
  { yMin := b.yMin
    yMax := b.yMax
    depthMin := b.depthMin.getD (.ofFloat 0)
    depthMax := b.depthMax.getD none
    material := b.material }

/-- What is given of the material bands of a dimension. -/
structure MaterialBands.Draft where
  bands : Option (List MaterialBand.Draft) := none
  fill : Option Material := none

/-- The material bands, with defaults for what is not given. -/
def MaterialBands.Draft.complete (b : MaterialBands.Draft) : MaterialBands Quantity :=
  let z : MaterialBands Quantity := MaterialBands.default.map .ofFloat
  { bands := (b.bands.map (·.map (·.complete))).getD z.bands
    fill := b.fill.getD z.fill }

/-- What is given of the markers of a dimension. -/
structure MarkerTable.Draft where
  cave : Option (Option MarkerChannel.Draft) := none
  ore : Option (Option MarkerChannel.Draft) := none
  oreBands : Option (List OreBand) := none
  water : Option (Option MarkerChannel.Draft) := none
  seaLevel : Option Int32 := none
  structure_ : Option (Option MarkerChannel.Draft) := none
  structureBands : Option (List (StructureBand Quantity)) := none

/-- The markers, with defaults for what is not given. -/
def MarkerTable.Draft.complete (t : MarkerTable.Draft) : MarkerTable Quantity :=
  let z : MarkerTable Quantity := MarkerTable.default.map .ofFloat
  { cave := (t.cave.map (·.map (·.complete))).getD z.cave
    ore := (t.ore.map (·.map (·.complete))).getD z.ore
    oreBands := t.oreBands.getD z.oreBands
    water := (t.water.map (·.map (·.complete))).getD z.water
    seaLevel := t.seaLevel.getD z.seaLevel
    structure_ := (t.structure_.map (·.map (·.complete))).getD z.structure_
    structureBands := t.structureBands.getD z.structureBands }

/-! ## Dimensions and tables -/

/-- What is given of one dimension. -/
structure DimensionTable.Draft where
  height : Option HeightProfile.Draft := none
  ceiling : Option UInt32 := none
  /-- Caves can be left out, and they can be given as absent. -/
  caves : Option (Option CaveCarving.Draft) := none
  ripple : Option NoiseLayer.Draft := none
  bands : Option MaterialBands.Draft := none
  markers : Option MarkerTable.Draft := none

/-- The dimension. It keeps its own section where none is given, and a section that is given is
completed on its own. -/
def DimensionTable.Draft.complete (dimension : Dimension) (t : DimensionTable.Draft) :
    DimensionTable Quantity :=
  let z : DimensionTable Quantity := (DimensionTable.ofDimension dimension).map .ofFloat
  { height := (t.height.map (·.complete)).getD z.height
    ceiling := t.ceiling.getD z.ceiling
    caves := (t.caves.map (·.map (·.complete))).getD z.caves
    ripple := (t.ripple.map (·.complete)).getD z.ripple
    bands := (t.bands.map (·.complete)).getD z.bands
    markers := (t.markers.map (·.complete)).getD z.markers }

/-- What is given of the climate. -/
structure ClimateTable.Draft where
  temperature : Option NoiseChannel.Draft := none
  humidity : Option NoiseChannel.Draft := none
  warm : Option Quantity := none
  cold : Option Quantity := none
  wet : Option Quantity := none

/-- The climate, with defaults for what is not given. -/
def ClimateTable.Draft.complete (c : ClimateTable.Draft) : ClimateTable Quantity :=
  let z : ClimateTable Quantity := ClimateTable.default.map .ofFloat
  { temperature := (c.temperature.map (·.complete)).getD z.temperature
    humidity := (c.humidity.map (·.complete)).getD z.humidity
    warm := c.warm.getD z.warm
    cold := c.cold.getD z.cold
    wet := c.wet.getD z.wet }

/-- What is given of the smoothing. -/
structure SmoothingTable.Draft where
  keepAbove : Option Quantity := none
  clearBelow : Option Quantity := none

/-- The smoothing, with defaults for what is not given. -/
def SmoothingTable.Draft.complete (s : SmoothingTable.Draft) : SmoothingTable Quantity :=
  let z : SmoothingTable Quantity := SmoothingTable.default.map .ofFloat
  { keepAbove := s.keepAbove.getD z.keepAbove
    clearBelow := s.clearBelow.getD z.clearBelow }

/-- What is given of a table. -/
structure Table.Draft where
  overworld : Option DimensionTable.Draft := none
  nether : Option DimensionTable.Draft := none
  end_ : Option DimensionTable.Draft := none
  climate : Option ClimateTable.Draft := none
  smoothing : Option SmoothingTable.Draft := none

/-- The part of the draft for one dimension. -/
def Table.Draft.dimension (t : Table.Draft) : Dimension → Option DimensionTable.Draft
  | .overworld => t.overworld
  | .nether => t.nether
  | .end_ => t.end_

/-- The table, with defaults for what is not given. -/
def Table.Draft.complete (t : Table.Draft) : Table Quantity :=
  let z : Table Quantity := Table.default.map .ofFloat
  { overworld := (t.overworld.map (·.complete .overworld)).getD z.overworld
    nether := (t.nether.map (·.complete .nether)).getD z.nether
    end_ := (t.end_.map (·.complete .end_)).getD z.end_
    climate := (t.climate.map (·.complete)).getD z.climate
    smoothing := (t.smoothing.map (·.complete)).getD z.smoothing }

end Landform
