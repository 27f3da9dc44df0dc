import Landform.Dimension
import Landform.Material

/-! # Parameter tables

Every constant of the generator: octaves, frequencies, amplitudes, thresholds and band tables, for
each dimension and for what the dimensions share. A table is data, so tuning never touches a
formula. Tables are over any kind of number; doubles are what runs. -/

namespace Landform

/-! ## Noise -/

/-- A layer of fractal noise that adds up to `amplitude` blocks. -/
structure NoiseLayer (α : Type) where
  octaves : UInt32
  /-- The frequency of the first octave, in cycles per block. -/
  frequency : α
  amplitude : α
  /-- Mixed into the world seed for this layer. -/
  salt : UInt64
  deriving BEq

/-- Ridges that add up to `amplitude` blocks. -/
structure RidgeLayer (α : Type) where
  octaves : UInt32
  frequency : α
  amplitude : α
  /-- The exponent of a ridge; above one only sparse spikes remain. -/
  sharpness : α
  salt : UInt64
  deriving BEq

/-- Fractal noise without a unit. -/
structure NoiseChannel (α : Type) where
  octaves : UInt32
  frequency : α
  salt : UInt64
  deriving BEq

/-- Fractal noise that sets a marker where it exceeds `threshold`. -/
structure MarkerChannel (α : Type) where
  octaves : UInt32
  frequency : α
  threshold : α
  salt : UInt64
  deriving BEq

/-! ## Heights and caves -/

/-- The heights of the columns of a dimension. -/
structure HeightProfile (α : Type) where
  /-- The height before any layer is added. -/
  base : α
  layers : List (NoiseLayer α)
  ridge : Option (RidgeLayer α)
  /-- Heights below this are raised to it. -/
  minHeight : α
  /-- Heights above this are lowered to it. -/
  maxHeight : α
  deriving BEq

/-- Tunnels, cut where the magnitude of a fractal noise is large. -/
structure CaveCarving (α : Type) where
  octaves : UInt32
  frequency : α
  /-- Below this magnitude the density stays as it is. -/
  innerEdge : α
  /-- Above this magnitude the density is fully suppressed. -/
  outerEdge : α
  /-- Nothing is carved less deep than this. -/
  surfaceShell : α
  /-- Nothing is carved below this height. -/
  floor : UInt32
  salt : UInt64
  deriving BEq

/-! ## Bands -/

/-- Gives solid voxels a material, in a range of heights and a range of depths below the surface.
Lower ends belong to the ranges and upper ends do not. -/
structure MaterialBand (α : Type) where
  yMin : Int32
  yMax : Int32
  depthMin : α
  /-- Without a greatest depth the band goes all the way down. -/
  depthMax : Option α
  material : Material
  deriving BEq

/-- The first band that matches decides, and `fill` where none does. -/
structure MaterialBands (α : Type) where
  bands : List (MaterialBand α)
  fill : Material
  deriving BEq

/-- The ore of veins below a height. -/
structure OreBand where
  belowY : Int32
  ore : Material
  deriving BEq, DecidableEq

/-- The structure that is anchored above a depth. -/
structure StructureBand (α : Type) where
  maxDepth : α
  structure_ : Material
  deriving BEq

/-! ## Dimensions and tables -/

/-- The markers of a dimension; a marker without a channel is never set. -/
structure MarkerTable (α : Type) where
  cave : Option (MarkerChannel α)
  ore : Option (MarkerChannel α)
  /-- In ascending order; the last one also covers what lies above it. -/
  oreBands : List OreBand
  water : Option (MarkerChannel α)
  /-- Water is only marked below this height. -/
  seaLevel : Int32
  structure_ : Option (MarkerChannel α)
  /-- In ascending order; the last one also covers what lies deeper. -/
  structureBands : List (StructureBand α)
  deriving BEq

/-- The channel of each marker. -/
def MarkerTable.channel {α : Type} (t : MarkerTable α) : Marker → Option (MarkerChannel α)
  | .cave => t.cave
  | .ore => t.ore
  | .water => t.water
  | .structure_ => t.structure_

/-- What it takes to generate one dimension. -/
structure DimensionTable (α : Type) where
  height : HeightProfile α
  /-- From this height on nothing is solid. -/
  ceiling : UInt32
  caves : Option (CaveCarving α)
  /-- Added to the density of a whole column. -/
  ripple : NoiseLayer α
  bands : MaterialBands α
  markers : MarkerTable α
  deriving BEq

/-- The climate fields and the limits between climates. -/
structure ClimateTable (α : Type) where
  temperature : NoiseChannel α
  humidity : NoiseChannel α
  /-- Above this temperature it is warm. -/
  warm : α
  /-- Below this temperature it is cold. -/
  cold : α
  /-- Above this humidity it is wet. -/
  wet : α
  deriving BEq

/-- Which voxels the smoothing clears, by the solid fraction of their neighbours. -/
structure SmoothingTable (α : Type) where
  /-- Above this fraction a voxel is kept. -/
  keepAbove : α
  /-- Below this fraction a voxel is cleared. -/
  clearBelow : α
  deriving BEq

/-- The complete table. -/
structure Table (α : Type) where
  overworld : DimensionTable α
  nether : DimensionTable α
  end_ : DimensionTable α
  climate : ClimateTable α
  smoothing : SmoothingTable α
  deriving BEq

/-- The part of the table for one dimension. -/
def Table.dimension {α : Type} (t : Table α) : Dimension → DimensionTable α
  | .overworld => t.overworld
  | .nether => t.nether
  | .end_ => t.end_

end Landform
