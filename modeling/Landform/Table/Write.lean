import Landform.Document.Basic
import Landform.Table.Basic

/-! # Writing tables

A table as a document that names every value. -/

namespace Landform

/-- A record without a name. -/
def Document.fields (entries : List (String × Document)) : Document := .record none entries

/-- A layer as a document. -/
def NoiseLayer.toDocument (l : NoiseLayer Quantity) : Document :=
  .fields [("octaves", .integer l.octaves.toNat), ("frequency", .real l.frequency),
    ("amplitude", .real l.amplitude), ("seed_offset", .integer l.salt.toNat)]

/-- Ridges as a document. -/
def RidgeLayer.toDocument (l : RidgeLayer Quantity) : Document :=
  .fields [("octaves", .integer l.octaves.toNat), ("frequency", .real l.frequency),
    ("amplitude", .real l.amplitude), ("sharpness", .real l.sharpness),
    ("seed_offset", .integer l.salt.toNat)]

/-- A channel as a document. -/
def NoiseChannel.toDocument (c : NoiseChannel Quantity) : Document :=
  .fields [("octaves", .integer c.octaves.toNat), ("frequency", .real c.frequency),
    ("seed_offset", .integer c.salt.toNat)]

/-- A marker channel as a document. -/
def MarkerChannel.toDocument (c : MarkerChannel Quantity) : Document :=
  .fields [("octaves", .integer c.octaves.toNat), ("frequency", .real c.frequency),
    ("threshold", .real c.threshold), ("seed_offset", .integer c.salt.toNat)]

/-- A profile as a document. -/
def HeightProfile.toDocument (h : HeightProfile Quantity) : Document :=
  .fields [("base", .real h.base), ("layers", .list (h.layers.map (·.toDocument))),
    ("ridge", .ofOption (·.toDocument) h.ridge), ("min_height", .real h.minHeight),
    ("max_height", .real h.maxHeight)]

/-- A carving as a document. -/
def CaveCarving.toDocument (c : CaveCarving Quantity) : Document :=
  .fields [("octaves", .integer c.octaves.toNat), ("frequency", .real c.frequency),
    ("inner_edge", .real c.innerEdge), ("outer_edge", .real c.outerEdge),
    ("surface_shell", .real c.surfaceShell), ("floor", .integer c.floor.toNat),
    ("seed_offset", .integer c.salt.toNat)]

/-- A material band as a document. -/
def MaterialBand.toDocument (b : MaterialBand Quantity) : Document :=
  .fields [("y_min", .integer b.yMin.toInt), ("y_max", .integer b.yMax.toInt),
    ("depth_min", .real b.depthMin), ("depth_max", .ofOption .real b.depthMax),
    ("material", .word b.material.word)]

/-- The material bands of a dimension as a document. -/
def MaterialBands.toDocument (b : MaterialBands Quantity) : Document :=
  .fields [("bands", .list (b.bands.map (·.toDocument))), ("fill", .word b.fill.word)]

/-- An ore band as a document. -/
def OreBand.toDocument (b : OreBand) : Document :=
  .fields [("below_y", .integer b.belowY.toInt), ("ore", .word b.ore.word)]

/-- A structure band as a document. -/
def StructureBand.toDocument (b : StructureBand Quantity) : Document :=
  .fields [("max_depth", .real b.maxDepth), ("structure", .word b.structure_.word)]

/-- The markers of a dimension as a document. -/
def MarkerTable.toDocument (t : MarkerTable Quantity) : Document :=
  .fields [("cave", .ofOption (·.toDocument) t.cave), ("ore", .ofOption (·.toDocument) t.ore),
    ("ore_bands", .list (t.oreBands.map (·.toDocument))),
    ("water", .ofOption (·.toDocument) t.water), ("sea_level", .integer t.seaLevel.toInt),
    ("structure", .ofOption (·.toDocument) t.structure_),
    ("structure_bands", .list (t.structureBands.map (·.toDocument)))]

/-- One dimension as a document. -/
def DimensionTable.toDocument (t : DimensionTable Quantity) : Document :=
  .fields [("height", t.height.toDocument), ("ceiling", .integer t.ceiling.toNat),
    ("caves", .ofOption (·.toDocument) t.caves), ("ripple", t.ripple.toDocument),
    ("bands", t.bands.toDocument), ("markers", t.markers.toDocument)]

/-- The climate as a document. -/
def ClimateTable.toDocument (c : ClimateTable Quantity) : Document :=
  .fields [("temperature", c.temperature.toDocument), ("humidity", c.humidity.toDocument),
    ("warm", .real c.warm), ("cold", .real c.cold), ("wet", .real c.wet)]

/-- The smoothing as a document. -/
def SmoothingTable.toDocument (s : SmoothingTable Quantity) : Document :=
  .fields [("keep_above", .real s.keepAbove), ("clear_below", .real s.clearBelow)]

/-- A table as a document. -/
def Table.toDocument (t : Table Quantity) : Document :=
  .fields [("overworld", t.overworld.toDocument), ("nether", t.nether.toDocument),
    ("end", t.end_.toDocument), ("biome", t.climate.toDocument),
    ("smoothing", t.smoothing.toDocument)]

end Landform
