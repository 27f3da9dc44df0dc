import Landform.Table.Basic
import Landform.Number.Layout

/-! # Faults of tables

The reasons why a table cannot be used, and their wording. -/

namespace Landform

/-- An entry of one dimension that a fault can be about. -/
inductive DimensionEntry where
  | base
  | layer (index : Nat)
  | layerAmplitude (index : Nat)
  | ridge
  | ridgeAmplitude
  | caves
  | surfaceShell
  | ripple
  | marker (m : Marker)
  | threshold (m : Marker)
  deriving DecidableEq, Repr

/-- An entry of the climate that a fault can be about. -/
inductive ClimateEntry where
  | temperature
  | humidity
  | warm
  | cold
  | wet
  deriving DecidableEq, Repr

/-- An entry of a table that a fault can be about. -/
inductive Place where
  | dimension (d : Dimension) (entry : DimensionEntry)
  | climate (entry : ClimateEntry)
  deriving DecidableEq, Repr

/-- A rule that ties entries of one dimension together. -/
inductive DimensionRule where
  | sharpness
  | heightBounds
  | ceilingInColumn
  | heightBelowCeiling
  | caveEdges
  | rippleAmplitude
  | bandHeights (index : Nat)
  | bandDepths (index : Nat)
  | bandMaterial (index : Nat)
  | fillMaterial
  | someOreBand
  | oreBandOrder
  | someStructureBand
  | structureBandOrder
  deriving DecidableEq, Repr

/-- Why a table cannot be used. -/
inductive TableFault (α : Type) where
  /-- Noise without an octave. -/
  | octaves (place : Place)
  /-- Noise whose frequency is not a positive number. -/
  | frequency (place : Place) (got : α)
  /-- A value that has to be finite and is not. -/
  | notFinite (place : Place) (got : α)
  /-- A dimension that breaks a rule. -/
  | broken (d : Dimension) (rule : DimensionRule)
  /-- Smoothing that would both keep and clear a voxel. -/
  | smoothing

/-! ## Wording -/

/-- The path of the entry within its dimension. -/
def DimensionEntry.path : DimensionEntry → String
  | base => "height.base"
  | layer i => "height.layers[" ++ toString i ++ "]"
  | layerAmplitude i => "height.layers[" ++ toString i ++ "].amplitude"
  | ridge => "height.ridge"
  | ridgeAmplitude => "height.ridge.amplitude"
  | caves => "caves"
  | surfaceShell => "caves.surface_shell"
  | ripple => "ripple"
  | marker m => "markers." ++ m.word
  | threshold m => "markers." ++ m.word ++ ".threshold"

/-- The path of the entry within the table. -/
def ClimateEntry.path : ClimateEntry → String
  | temperature => "biome.temperature"
  | humidity => "biome.humidity"
  | warm => "biome.warm"
  | cold => "biome.cold"
  | wet => "biome.wet"

/-- The full path of the entry. -/
def Place.path : Place → String
  | dimension d entry => d.name ++ "." ++ entry.path
  | climate entry => entry.path

/-- What the rule says, with the entries it is about. -/
def DimensionRule.text : DimensionRule → String
  | sharpness => "height.ridge.sharpness must be positive"
  | heightBounds => "height clamp must satisfy min_height <= max_height"
  | ceilingInColumn => "ceiling exceeds the column height"
  | heightBelowCeiling => "height.max_height must stay below the ceiling"
  | caveEdges => "caves: inner_edge must be below outer_edge"
  | rippleAmplitude => "ripple.amplitude must be below 1 block"
  | bandHeights i => "bands[" ++ toString i ++ "]: empty y range"
  | bandDepths i => "bands[" ++ toString i ++ "]: empty depth range"
  | bandMaterial i => "bands[" ++ toString i ++ "]: material must be solid"
  | fillMaterial => "bands.fill must be a solid material"
  | someOreBand => "markers.ore_bands must not be empty when ore is enabled"
  | oreBandOrder => "markers.ore_bands must be ascending"
  | someStructureBand => "markers.structure_bands must not be empty when structures are enabled"
  | structureBandOrder => "markers.structure_bands must be ascending"

/-- The wording of a fault, given how its numbers are written. -/
def TableFault.text {α : Type} (number : α → String) : TableFault α → String
  | octaves place => place.path ++ ": octaves must be at least 1"
  | frequency place got => place.path ++ ": frequency must be positive, got " ++ number got
  | notFinite place got => place.path ++ ": value must be finite, got " ++ number got
  | broken d rule => d.name ++ "." ++ rule.text
  | smoothing => "smoothing: clear_below must not exceed keep_above"

/-- The wording of a fault of a table of doubles. -/
def TableFault.message (fault : TableFault Float) : String := fault.text NumberLayout.plain.text

end Landform
