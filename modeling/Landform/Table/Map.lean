import Landform.Number.Quantity
import Landform.Table.Basic

/-! # Tables over other numbers

A table keeps its shape when each of its numbers is replaced. Settings keep tables of quantities as
they were written; the generator computes with their values. -/

namespace Landform

variable {α β : Type} (f : α → β)

/-- A layer with every number replaced. -/
def NoiseLayer.map (l : NoiseLayer α) : NoiseLayer β :=
  ⟨l.octaves, f l.frequency, f l.amplitude, l.salt⟩

/-- Ridges with every number replaced. -/
def RidgeLayer.map (l : RidgeLayer α) : RidgeLayer β :=
  ⟨l.octaves, f l.frequency, f l.amplitude, f l.sharpness, l.salt⟩

/-- A channel with every number replaced. -/
def NoiseChannel.map (c : NoiseChannel α) : NoiseChannel β := ⟨c.octaves, f c.frequency, c.salt⟩

/-- A marker channel with every number replaced. -/
def MarkerChannel.map (c : MarkerChannel α) : MarkerChannel β :=
  ⟨c.octaves, f c.frequency, f c.threshold, c.salt⟩

/-- A profile with every number replaced. -/
def HeightProfile.map (h : HeightProfile α) : HeightProfile β where
  base := f h.base
  layers := h.layers.map (·.map f)
  ridge := h.ridge.map (·.map f)
  minHeight := f h.minHeight
  maxHeight := f h.maxHeight

/-- A carving with every number replaced. -/
def CaveCarving.map (c : CaveCarving α) : CaveCarving β where
  octaves := c.octaves
  frequency := f c.frequency
  innerEdge := f c.innerEdge
  outerEdge := f c.outerEdge
  surfaceShell := f c.surfaceShell
  floor := c.floor
  salt := c.salt

/-- A material band with every number replaced. -/
def MaterialBand.map (b : MaterialBand α) : MaterialBand β :=
  ⟨b.yMin, b.yMax, f b.depthMin, b.depthMax.map f, b.material⟩

/-- Material bands with every number replaced. -/
def MaterialBands.map (b : MaterialBands α) : MaterialBands β := ⟨b.bands.map (·.map f), b.fill⟩

/-- A structure band with every number replaced. -/
def StructureBand.map (b : StructureBand α) : StructureBand β := ⟨f b.maxDepth, b.structure_⟩

/-- Markers with every number replaced. -/
def MarkerTable.map (t : MarkerTable α) : MarkerTable β where
  cave := t.cave.map (·.map f)
  ore := t.ore.map (·.map f)
  oreBands := t.oreBands
  water := t.water.map (·.map f)
  seaLevel := t.seaLevel
  structure_ := t.structure_.map (·.map f)
  structureBands := t.structureBands.map (·.map f)

/-- One dimension with every number replaced. -/
def DimensionTable.map (t : DimensionTable α) : DimensionTable β where
  height := t.height.map f
  ceiling := t.ceiling
  caves := t.caves.map (·.map f)
  ripple := t.ripple.map f
  bands := t.bands.map f
  markers := t.markers.map f

/-- A climate with every number replaced. -/
def ClimateTable.map (c : ClimateTable α) : ClimateTable β where
  temperature := c.temperature.map f
  humidity := c.humidity.map f
  warm := f c.warm
  cold := f c.cold
  wet := f c.wet

/-- A smoothing with every number replaced. -/
def SmoothingTable.map (s : SmoothingTable α) : SmoothingTable β := ⟨f s.keepAbove, f s.clearBelow⟩

/-- A table with every number replaced. -/
def Table.map (t : Table α) : Table β where
  overworld := t.overworld.map f
  nether := t.nether.map f
  end_ := t.end_.map f
  climate := t.climate.map f
  smoothing := t.smoothing.map f

/-- The values of the quantities of a table. -/
def Table.values (t : Table Quantity) : Table Float := t.map Quantity.value

/-! ## Doubles as quantities

A double that becomes a quantity has itself as its value, and so has every part of a table. -/

section

open Quantity (ofFloat value)

@[simp]
theorem NoiseLayer.map_value (l : NoiseLayer Float) : (l.map ofFloat).map value = l := rfl

@[simp]
theorem RidgeLayer.map_value (l : RidgeLayer Float) : (l.map ofFloat).map value = l := rfl

@[simp]
theorem MarkerChannel.map_value (c : MarkerChannel Float) : (c.map ofFloat).map value = c := rfl

@[simp]
theorem CaveCarving.map_value (c : CaveCarving Float) : (c.map ofFloat).map value = c := rfl

@[simp]
theorem StructureBand.map_value (b : StructureBand Float) : (b.map ofFloat).map value = b := rfl

@[simp]
theorem MaterialBand.map_value (b : MaterialBand Float) : (b.map ofFloat).map value = b := by
  rcases b with ⟨yMin, yMax, depthMin, _ | depthMax, material⟩ <;> rfl

@[simp]
theorem MaterialBands.map_value (b : MaterialBands Float) : (b.map ofFloat).map value = b := by
  simp [MaterialBands.map, Function.comp_def]

@[simp]
theorem HeightProfile.map_value (h : HeightProfile Float) : (h.map ofFloat).map value = h := by
  simp [HeightProfile.map, Function.comp_def, ofFloat]

@[simp]
theorem MarkerTable.map_value (t : MarkerTable Float) : (t.map ofFloat).map value = t := by
  simp [MarkerTable.map, Function.comp_def]

@[simp]
theorem DimensionTable.map_value (t : DimensionTable Float) : (t.map ofFloat).map value = t := by
  simp [DimensionTable.map, Function.comp_def]

/-- A table of doubles is that of its values. -/
@[simp]
theorem Table.values_map (t : Table Float) : (t.map ofFloat).values = t := by
  simp only [Table.values, Table.map, DimensionTable.map_value]
  rfl

end

end Landform
