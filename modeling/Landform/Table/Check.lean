import Landform.Table.Fault
import Landform.Number.Scalar

/-! # Checking tables

A table is checked entry by entry, and the first fault is the answer. What passes is safe to
generate from: noise has octaves and a positive frequency, limits are in order, materials are
ground, and band tables ascend. -/

namespace Landform

open scoped Scalar

variable {α : Type} [Scalar α]

/-- Passes if the condition holds, and stops with the fault otherwise. -/
def require (condition : Prop) [Decidable condition] (fault : TableFault α) :
    Except (TableFault α) Unit :=
  if condition then .ok () else .error fault

/-- Noise has an octave and a positive, finite frequency. -/
def checkNoise (place : Place) (octaves : UInt32) (frequency : α) :
    Except (TableFault α) Unit := do
  require (octaves ≠ 0) (.octaves place)
  require (Scalar.isFinite frequency ∧ 0 < frequency) (.frequency place frequency)

/-- The value is finite. -/
def checkFinite (place : Place) (value : α) : Except (TableFault α) Unit :=
  require (Scalar.isFinite value) (.notFinite place value)

/-- Every entry of a list is less than the next one. -/
def isAscending {β : Type} (less : β → β → Bool) : List β → Bool
  | a :: b :: rest => less a b && isAscending less (b :: rest)
  | _ => true

namespace HeightProfile

/-- One layer of a profile, by its place in the list. -/
def checkLayer (d : Dimension) (index : Nat) (layer : NoiseLayer α) :
    Except (TableFault α) Unit := do
  checkNoise (.dimension d (.layer index)) layer.octaves layer.frequency
  checkFinite (.dimension d (.layerAmplitude index)) layer.amplitude

/-- The ridges of a profile. -/
def checkRidge (d : Dimension) (ridge : RidgeLayer α) : Except (TableFault α) Unit := do
  checkNoise (.dimension d .ridge) ridge.octaves ridge.frequency
  checkFinite (.dimension d .ridgeAmplitude) ridge.amplitude
  require (Scalar.isFinite ridge.sharpness ∧ 0 < ridge.sharpness) (.broken d .sharpness)

/-- The profile on its own. -/
def check (d : Dimension) (h : HeightProfile α) : Except (TableFault α) Unit := do
  checkFinite (.dimension d .base) h.base
  h.layers.zipIdx.forM fun (layer, i) => checkLayer d i layer
  h.ridge.forM (checkRidge d)
  require (Scalar.isFinite h.minHeight ∧ Scalar.isFinite h.maxHeight ∧ h.minHeight ≤ h.maxHeight)
    (.broken d .heightBounds)

end HeightProfile

/-- Carving has noise, two finite edges in order, and a finite shell. -/
def CaveCarving.check (d : Dimension) (c : CaveCarving α) : Except (TableFault α) Unit := do
  checkNoise (.dimension d .caves) c.octaves c.frequency
  require (Scalar.isFinite c.innerEdge ∧ Scalar.isFinite c.outerEdge ∧ c.innerEdge < c.outerEdge)
    (.broken d .caveEdges)
  checkFinite (.dimension d .surfaceShell) c.surfaceShell

/-- A band covers some height and some depth, and is made of ground. -/
def MaterialBand.check (d : Dimension) (index : Nat) (band : MaterialBand α) :
    Except (TableFault α) Unit := do
  require (band.yMin < band.yMax) (.broken d (.bandHeights index))
  require (Scalar.isFinite band.depthMin ∧
      band.depthMax.all fun max => Scalar.isFinite max && decide (band.depthMin < max))
    (.broken d (.bandDepths index))
  require (band.material.isGround) (.broken d (.bandMaterial index))

/-- Every band passes, and the fill is ground. -/
def MaterialBands.check (d : Dimension) (b : MaterialBands α) : Except (TableFault α) Unit := do
  b.bands.zipIdx.forM fun (band, i) => band.check d i
  require b.fill.isGround (.broken d .fillMaterial)

namespace MarkerTable

/-- One channel. -/
def checkChannel (d : Dimension) (m : Marker) (c : MarkerChannel α) :
    Except (TableFault α) Unit := do
  checkNoise (.dimension d (.marker m)) c.octaves c.frequency
  checkFinite (.dimension d (.threshold m)) c.threshold

/-- The channels pass, and the bands of enabled markers are there and ascend. -/
def check (d : Dimension) (t : MarkerTable α) : Except (TableFault α) Unit := do
  Marker.all.forM fun m => (t.channel m).forM (checkChannel d m)
  require (t.ore.isNone ∨ t.oreBands ≠ []) (.broken d .someOreBand)
  require (isAscending (fun a b => a.belowY < b.belowY) t.oreBands) (.broken d .oreBandOrder)
  require (t.structure_.isNone ∨ ¬ t.structureBands.isEmpty) (.broken d .someStructureBand)
  require (isAscending (fun a b => decide (a.maxDepth < b.maxDepth)) t.structureBands)
    (.broken d .structureBandOrder)

end MarkerTable

/-- A dimension passes if all its parts do, its ceiling lies within a column, and its heights stay
below the ceiling. -/
def DimensionTable.check (d : Dimension) (t : DimensionTable α) :
    Except (TableFault α) Unit := do
  t.height.check d
  require (t.ceiling ≤ 384) (.broken d .ceilingInColumn)
  require (¬ Scalar.ofNat t.ceiling.toNat - 1 < t.height.maxHeight) (.broken d .heightBelowCeiling)
  t.caves.forM (·.check d)
  checkNoise (.dimension d .ripple) t.ripple.octaves t.ripple.frequency
  require (Scalar.isFinite t.ripple.amplitude ∧ Scalar.abs t.ripple.amplitude < 1)
    (.broken d .rippleAmplitude)
  t.bands.check d
  t.markers.check d

/-- The climate has noise and finite limits. -/
def ClimateTable.check (c : ClimateTable α) : Except (TableFault α) Unit := do
  checkNoise (.climate .temperature) c.temperature.octaves c.temperature.frequency
  checkNoise (.climate .humidity) c.humidity.octaves c.humidity.frequency
  checkFinite (.climate .warm) c.warm
  checkFinite (.climate .cold) c.cold
  checkFinite (.climate .wet) c.wet

/-- The limits are finite, and no voxel is both kept and cleared. -/
def SmoothingTable.check (s : SmoothingTable α) : Except (TableFault α) Unit :=
  require (Scalar.isFinite s.clearBelow ∧ Scalar.isFinite s.keepAbove ∧
    s.clearBelow ≤ s.keepAbove) .smoothing

/-- Checks the dimensions in the order of their codes, and then what they share. -/
def Table.check (t : Table α) : Except (TableFault α) Unit := do
  Dimension.all.forM fun d => (t.dimension d).check d
  t.climate.check
  t.smoothing.check

end Landform
