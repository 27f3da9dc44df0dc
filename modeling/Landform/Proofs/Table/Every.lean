import Landform.Table.Basic
import Mathlib.Tactic.Common

/-! # Tables of numbers

A property of the numbers of a table. -/

namespace Landform

/-! ## Every number -/

section Every

variable {α : Type} (p : α → Prop)

/-- Every number of a layer has a property. -/
def NoiseLayer.Every (l : NoiseLayer α) : Prop := p l.frequency ∧ p l.amplitude

/-- Every number of ridges has a property. -/
def RidgeLayer.Every (l : RidgeLayer α) : Prop := p l.frequency ∧ p l.amplitude ∧ p l.sharpness

/-- Every number of a channel has a property. -/
def NoiseChannel.Every (c : NoiseChannel α) : Prop := p c.frequency

/-- Every number of a marker channel has a property. -/
def MarkerChannel.Every (c : MarkerChannel α) : Prop := p c.frequency ∧ p c.threshold

/-- Every number of a profile has a property. -/
def HeightProfile.Every (h : HeightProfile α) : Prop :=
  p h.base ∧ (∀ l ∈ h.layers, l.Every p) ∧ (∀ r ∈ h.ridge, r.Every p) ∧ p h.minHeight ∧
    p h.maxHeight

/-- Every number of a carving has a property. -/
def CaveCarving.Every (c : CaveCarving α) : Prop :=
  p c.frequency ∧ p c.innerEdge ∧ p c.outerEdge ∧ p c.surfaceShell

/-- Every number of a material band has a property. -/
def MaterialBand.Every (b : MaterialBand α) : Prop := p b.depthMin ∧ ∀ q ∈ b.depthMax, p q

/-- Every number of the material bands of a dimension has a property. -/
def MaterialBands.Every (b : MaterialBands α) : Prop := ∀ band ∈ b.bands, band.Every p

/-- Every number of a structure band has a property. -/
def StructureBand.Every (b : StructureBand α) : Prop := p b.maxDepth

/-- Every number of the markers of a dimension has a property. -/
def MarkerTable.Every (t : MarkerTable α) : Prop :=
  (∀ c ∈ t.cave, c.Every p) ∧ (∀ c ∈ t.ore, c.Every p) ∧ (∀ c ∈ t.water, c.Every p) ∧
    (∀ c ∈ t.structure_, c.Every p) ∧ ∀ b ∈ t.structureBands, b.Every p

/-- Every number of a dimension has a property. -/
def DimensionTable.Every (t : DimensionTable α) : Prop :=
  t.height.Every p ∧ (∀ c ∈ t.caves, c.Every p) ∧ t.ripple.Every p ∧ t.bands.Every p ∧
    t.markers.Every p

/-- Every number of the climate has a property. -/
def ClimateTable.Every (c : ClimateTable α) : Prop :=
  c.temperature.Every p ∧ c.humidity.Every p ∧ p c.warm ∧ p c.cold ∧ p c.wet

/-- Every number of the smoothing has a property. -/
def SmoothingTable.Every (s : SmoothingTable α) : Prop := p s.keepAbove ∧ p s.clearBelow

/-- Every number of a table has a property. -/
def Table.Every (t : Table α) : Prop :=
  t.overworld.Every p ∧ t.nether.Every p ∧ t.end_.Every p ∧ t.climate.Every p ∧
    t.smoothing.Every p

variable [DecidablePred p]

instance (l : NoiseLayer α) : Decidable (l.Every p) :=
  inferInstanceAs (Decidable (_ ∧ _))

instance (l : RidgeLayer α) : Decidable (l.Every p) :=
  inferInstanceAs (Decidable (_ ∧ _))

instance (c : NoiseChannel α) : Decidable (c.Every p) :=
  inferInstanceAs (Decidable (p _))

instance (c : MarkerChannel α) : Decidable (c.Every p) :=
  inferInstanceAs (Decidable (_ ∧ _))

instance (h : HeightProfile α) : Decidable (h.Every p) :=
  inferInstanceAs (Decidable (_ ∧ _))

instance (c : CaveCarving α) : Decidable (c.Every p) :=
  inferInstanceAs (Decidable (_ ∧ _))

instance (b : MaterialBand α) : Decidable (b.Every p) :=
  inferInstanceAs (Decidable (_ ∧ _))

instance (b : MaterialBands α) : Decidable (b.Every p) :=
  inferInstanceAs (Decidable (∀ band ∈ b.bands, band.Every p))

instance (b : StructureBand α) : Decidable (b.Every p) :=
  inferInstanceAs (Decidable (p _))

instance (t : MarkerTable α) : Decidable (t.Every p) :=
  inferInstanceAs (Decidable (_ ∧ _))

instance (t : DimensionTable α) : Decidable (t.Every p) :=
  inferInstanceAs (Decidable (_ ∧ _))

instance (c : ClimateTable α) : Decidable (c.Every p) :=
  inferInstanceAs (Decidable (_ ∧ _))

instance (s : SmoothingTable α) : Decidable (s.Every p) :=
  inferInstanceAs (Decidable (_ ∧ _))

instance (t : Table α) : Decidable (t.Every p) :=
  inferInstanceAs (Decidable (_ ∧ _))

end Every

/-! ## Implication

What implies a property of numbers implies it of every number. -/

section Implication

variable {α : Type} {p q : α → Prop} (hpq : ∀ a, p a → q a)
include hpq

theorem NoiseLayer.Every.imp {l : NoiseLayer α} : l.Every p → l.Every q :=
  And.imp (hpq _) (hpq _)

theorem RidgeLayer.Every.imp {l : RidgeLayer α} : l.Every p → l.Every q :=
  And.imp (hpq _) (And.imp (hpq _) (hpq _))

theorem NoiseChannel.Every.imp {c : NoiseChannel α} : c.Every p → c.Every q := hpq _

theorem MarkerChannel.Every.imp {c : MarkerChannel α} : c.Every p → c.Every q :=
  And.imp (hpq _) (hpq _)

theorem HeightProfile.Every.imp {l : HeightProfile α} (h : l.Every p) : l.Every q := by
  obtain ⟨hbase, hlayers, hridge, hmin, hmax⟩ := h
  exact ⟨hpq _ hbase, fun l hl => (hlayers l hl).imp hpq, fun r hr => (hridge r hr).imp hpq,
    hpq _ hmin, hpq _ hmax⟩

theorem CaveCarving.Every.imp {c : CaveCarving α} : c.Every p → c.Every q :=
  And.imp (hpq _) (And.imp (hpq _) (And.imp (hpq _) (hpq _)))

theorem MaterialBand.Every.imp {b : MaterialBand α} : b.Every p → b.Every q :=
  And.imp (hpq _) fun hmax a ha => hpq a (hmax a ha)

theorem MaterialBands.Every.imp {b : MaterialBands α} (h : b.Every p) : b.Every q :=
  fun band hband => (h band hband).imp hpq

theorem StructureBand.Every.imp {b : StructureBand α} : b.Every p → b.Every q := hpq _

theorem MarkerTable.Every.imp {t : MarkerTable α} (h : t.Every p) : t.Every q := by
  obtain ⟨hcave, hore, hwater, hstructure, hbands⟩ := h
  exact ⟨fun c hc => (hcave c hc).imp hpq, fun c hc => (hore c hc).imp hpq,
    fun c hc => (hwater c hc).imp hpq, fun c hc => (hstructure c hc).imp hpq,
    fun b hb => (hbands b hb).imp hpq⟩

theorem DimensionTable.Every.imp {t : DimensionTable α} (h : t.Every p) : t.Every q := by
  obtain ⟨hheight, hcaves, hripple, hbands, hmarkers⟩ := h
  exact ⟨hheight.imp hpq, fun c hc => (hcaves c hc).imp hpq, hripple.imp hpq, hbands.imp hpq,
    hmarkers.imp hpq⟩

theorem ClimateTable.Every.imp {c : ClimateTable α} (h : c.Every p) : c.Every q := by
  obtain ⟨htemperature, hhumidity, hwarm, hcold, hwet⟩ := h
  exact ⟨htemperature.imp hpq, hhumidity.imp hpq, hpq _ hwarm, hpq _ hcold, hpq _ hwet⟩

theorem SmoothingTable.Every.imp {s : SmoothingTable α} : s.Every p → s.Every q :=
  And.imp (hpq _) (hpq _)

theorem Table.Every.imp {t : Table α} (h : t.Every p) : t.Every q := by
  obtain ⟨hoverworld, hnether, hend, hclimate, hsmoothing⟩ := h
  exact ⟨hoverworld.imp hpq, hnether.imp hpq, hend.imp hpq, hclimate.imp hpq, hsmoothing.imp hpq⟩

end Implication

end Landform
