import Landform.Table.Basic
import Landform.Number.Scalar

/-! # Default tables

The three dimensions as they come, and what a section holds where it leaves a value out. A value
left out of a section is that of the section's own default, not that of the dimension's. -/

namespace Landform

open Scalar (ratio)
open scoped Scalar

variable {α : Type} [Scalar α]

/-! ## Sections -/

/-- The default layer. -/
def NoiseLayer.default : NoiseLayer α := ⟨1, ratio 1 100, 1, 0⟩

/-- The default ridges. -/
def RidgeLayer.default : RidgeLayer α := ⟨1, ratio 1 100, 1, 1, 0⟩

/-- The default channel. -/
def NoiseChannel.default : NoiseChannel α := ⟨1, ratio 1 100, 0⟩

/-- The default marker channel. -/
def MarkerChannel.default : MarkerChannel α := ⟨1, ratio 5 100, ratio 1 2, 0⟩

/-- The default profile: flat ground. -/
def HeightProfile.default : HeightProfile α := ⟨64, [], none, 0, 383⟩

/-- The default carving. -/
def CaveCarving.default : CaveCarving α := ⟨3, ratio 1 32, ratio 2 10, ratio 8 10, 4, 5, 0⟩

/-- The default bands: stone throughout. -/
def MaterialBands.default : MaterialBands α := ⟨[], .stone⟩

/-- The default markers: none. -/
def MarkerTable.default : MarkerTable α := ⟨none, none, [], none, 62, none, []⟩

/-- The default climate. -/
def ClimateTable.default : ClimateTable α where
  temperature := ⟨2, ratio 1 384, 0x70⟩
  humidity := ⟨2, ratio 1 320, 0x71⟩
  warm := ratio 3 10
  cold := 0 - ratio 3 10
  wet := ratio 3 10

/-- The default smoothing. -/
def SmoothingTable.default : SmoothingTable α := ⟨ratio 1 2, ratio 3 10⟩

/-! ## Dimensions -/

/-- The largest double, deeper than anything. -/
def StructureBand.deepest : α := Scalar.ofNat (Nat.pow 2 1024 - Nat.pow 2 971)

/-- The structures of every dimension: by the surface, in the middle, and in the deep. -/
def StructureBand.defaults : List (StructureBand α) :=
  [⟨4, .surfaceStructure⟩, ⟨32, .midLevelStructure⟩, ⟨StructureBand.deepest, .undergroundStructure⟩]

/-- Above every height. -/
def OreBand.top : Int32 := Int32.maxValue

namespace DimensionTable

/-- Rolling hills over carved caves. -/
def overworld : DimensionTable α where
  height :=
    { base := 64
      layers := [⟨6, ratio 1 512, 64, 0x10⟩, ⟨4, ratio 1 128, 16, 0x11⟩]
      ridge := some ⟨3, ratio 1 96, 8, 1, 0x12⟩
      minHeight := 6
      maxHeight := 319 }
  ceiling := 320
  caves := some { (CaveCarving.default : CaveCarving α) with salt := 0x13 }
  ripple := ⟨1, ratio 1 4, ratio 1 10, 0x14⟩
  bands :=
    { bands :=
        [⟨0, 5, 0, none, .bedrock⟩,
          ⟨58, 66, 0, some 4, .sand⟩,
          ⟨0, 320, 0, some 1, .grass⟩,
          ⟨0, 320, 0, some 4, .dirt⟩]
      fill := .stone }
  markers :=
    { cave := some ⟨2, ratio 1 16, ratio 3 10, 0x40⟩
      ore := some ⟨1, ratio 1 6, ratio 8 10, 0x41⟩
      oreBands := [⟨16, .diamondOre⟩, ⟨32, .goldOre⟩, ⟨64, .ironOre⟩, ⟨OreBand.top, .coalOre⟩]
      water := some ⟨2, ratio 1 24, ratio 4 10, 0x42⟩
      seaLevel := 62
      structure_ := some ⟨1, ratio 1 12, ratio 9 10, 0x43⟩
      structureBands := StructureBand.defaults }

/-- A low and restless cavern floor under a roof of bedrock. -/
def nether : DimensionTable α where
  height :=
    { base := 32
      layers := [⟨4, ratio 1 64, 32, 0x20⟩]
      ridge := some ⟨2, ratio 1 48, 16, 1, 0x21⟩
      minHeight := 6
      maxHeight := 127 }
  ceiling := 128
  caves := none
  ripple := ⟨1, ratio 1 4, ratio 1 10, 0x22⟩
  bands :=
    { bands :=
        [⟨0, 5, 0, none, .bedrock⟩,
          ⟨123, 128, 0, none, .bedrock⟩,
          ⟨28, 40, 0, some 3, .soulSand⟩,
          ⟨48, 72, 12, none, .netherBrick⟩]
      fill := .netherrack }
  markers :=
    { cave := some ⟨2, ratio 1 20, ratio 35 100, 0x50⟩
      ore := some ⟨1, ratio 1 5, ratio 8 10, 0x51⟩
      oreBands := [⟨OreBand.top, .goldOre⟩]
      water := none
      seaLevel := 32
      structure_ := some ⟨1, ratio 1 10, ratio 9 10, 0x53⟩
      structureBands := StructureBand.defaults }

/-- A gentle plateau of end stone with sparse spikes. -/
def end_ : DimensionTable α where
  height :=
    { base := 64
      layers := [⟨3, ratio 1 256, 8, 0x30⟩]
      ridge := some ⟨1, ratio 1 24, 4, 4, 0x31⟩
      minHeight := 1
      maxHeight := 255 }
  ceiling := 256
  caves := none
  ripple := ⟨1, ratio 1 4, ratio 1 10, 0x32⟩
  bands := ⟨[], .endStone⟩
  markers :=
    { cave := none
      ore := none
      oreBands := []
      water := none
      seaLevel := 0
      structure_ := some ⟨1, ratio 1 16, ratio 9 10, 0x63⟩
      structureBands := StructureBand.defaults }

/-- The default of each dimension. -/
def ofDimension : Dimension → DimensionTable α
  | .overworld => overworld
  | .nether => nether
  | .end_ => end_

end DimensionTable

/-- The default table. -/
def Table.default : Table α where
  overworld := DimensionTable.overworld
  nether := DimensionTable.nether
  end_ := DimensionTable.end_
  climate := ClimateTable.default
  smoothing := SmoothingTable.default

instance : Inhabited (Table α) := ⟨Table.default⟩

end Landform
