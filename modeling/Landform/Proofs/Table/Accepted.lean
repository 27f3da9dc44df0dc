import Landform.Table.Check
import Landform.Table.Default
import Mathlib.Tactic.Common

/-! # Tables that pass their check

A check is a sequence of checks, and it passes if and only if all of them do. So a table that has
passed gives every condition that was looked at on the way. -/

namespace Landform

open scoped Scalar

/-! ## Sequences of checks -/

section Sequences

variable {ε β : Type}

theorem check_bind_eq_ok {x : Except ε Unit} {f : Unit → Except ε Unit} :
    (x >>= f) = .ok () ↔ x = .ok () ∧ f () = .ok () := by
  cases x with
  | error e => exact ⟨fun h => (by cases h), fun h => (by cases h.1)⟩
  | ok u => exact ⟨fun h => ⟨rfl, h⟩, fun h => h.2⟩

theorem check_eq_ok_of_toBool {x : Except ε Unit} (h : x.toBool = true) : x = .ok () := by
  cases x with
  | error e => cases h
  | ok u => rfl

theorem check_forM_eq_ok {l : List β} {f : β → Except ε Unit} :
    l.forM f = .ok () ↔ ∀ b ∈ l, f b = .ok () := by
  induction l with
  | nil => exact iff_of_true rfl (by simp)
  | cons b l ih =>
    change (f b >>= fun _ => l.forM f) = .ok () ↔ _
    rw [check_bind_eq_ok, ih, List.forall_mem_cons]

theorem require_eq_ok {c : Prop} [Decidable c] {fault : TableFault β} :
    require c fault = .ok () ↔ c := by
  unfold require
  split
  · rename_i h
    exact iff_of_true rfl h
  · rename_i h
    exact iff_of_false (by simp) h

end Sequences

/-! ## Tables -/

variable {α : Type} [Scalar α]

theorem Table.check_eq_ok {t : Table α} :
    t.check = .ok () ↔
      (∀ d, (t.dimension d).check d = .ok ()) ∧ t.climate.check = .ok () ∧
        t.smoothing.check = .ok () := by
  have hall : (∀ d ∈ Dimension.all, (t.dimension d).check d = .ok ()) ↔
      ∀ d, (t.dimension d).check d = .ok () :=
    ⟨fun h d => h d (by cases d <;> decide), fun h d _ => h d⟩
  unfold check
  rw [check_bind_eq_ok, check_forM_eq_ok, hall, check_bind_eq_ok]

/-- What a dimension that passes its check fulfils. -/
theorem DimensionTable.check_eq_ok {d : Dimension} {t : DimensionTable α} :
    t.check d = .ok () ↔
      t.height.check d = .ok () ∧ t.ceiling ≤ 384 ∧
        ¬ Scalar.ofNat t.ceiling.toNat - 1 < t.height.maxHeight ∧
        t.caves.forM (·.check d) = .ok () ∧
        checkNoise (.dimension d .ripple) t.ripple.octaves t.ripple.frequency = .ok () ∧
        (Scalar.isFinite t.ripple.amplitude ∧ Scalar.abs t.ripple.amplitude < 1) ∧
        t.bands.check d = .ok () ∧ t.markers.check d = .ok () := by
  unfold check
  simp only [check_bind_eq_ok, require_eq_ok]

/-- What a profile that passes its check fulfils. -/
theorem HeightProfile.check_eq_ok {d : Dimension} {h : HeightProfile α} :
    h.check d = .ok () ↔
      checkFinite (.dimension d .base) h.base = .ok () ∧
        (∀ l ∈ h.layers.zipIdx, checkLayer d l.2 l.1 = .ok ()) ∧
        h.ridge.forM (checkRidge d) = .ok () ∧
        Scalar.isFinite h.minHeight ∧ Scalar.isFinite h.maxHeight ∧
        h.minHeight ≤ h.maxHeight := by
  unfold check
  simp only [check_bind_eq_ok, check_forM_eq_ok, require_eq_ok]

theorem CaveCarving.check_eq_ok {d : Dimension} {c : CaveCarving α} :
    c.check d = .ok () ↔
      checkNoise (.dimension d .caves) c.octaves c.frequency = .ok () ∧
        (Scalar.isFinite c.innerEdge ∧ Scalar.isFinite c.outerEdge ∧ c.innerEdge < c.outerEdge) ∧
        checkFinite (.dimension d .surfaceShell) c.surfaceShell = .ok () := by
  unfold check
  simp only [check_bind_eq_ok, require_eq_ok]

theorem MaterialBand.check_eq_ok {d : Dimension} {i : Nat} {band : MaterialBand α} :
    band.check d i = .ok () ↔
      band.yMin < band.yMax ∧
        (Scalar.isFinite band.depthMin ∧
          band.depthMax.all fun max => Scalar.isFinite max && decide (band.depthMin < max)) ∧
        band.material.isGround := by
  unfold check
  simp only [check_bind_eq_ok, require_eq_ok]

/-- Bands that pass their check are made of ground, and so is their fill. -/
theorem MaterialBands.isGround_of_check {d : Dimension} {b : MaterialBands α}
    (h : b.check d = .ok ()) :
    (∀ band ∈ b.bands, band.material.isGround) ∧ b.fill.isGround := by
  unfold check at h
  rw [check_bind_eq_ok, check_forM_eq_ok, require_eq_ok] at h
  obtain ⟨hbands, hfill⟩ := h
  refine ⟨fun band hband => ?_, hfill⟩
  obtain ⟨i, hi, rfl⟩ := List.mem_iff_getElem.mp hband
  have hpair : (b.bands[i], i) ∈ b.bands.zipIdx :=
    List.mem_zipIdx_iff_getElem?.mpr (List.getElem?_eq_getElem hi)
  exact (MaterialBand.check_eq_ok.mp (hbands _ hpair)).2.2

/-- The bands of every dimension of an accepted table pass their check. -/
theorem Table.bands_check {t : Table α} (h : t.check = .ok ()) (d : Dimension) :
    (t.dimension d).bands.check d = .ok () := by
  have hd := (Table.check_eq_ok.mp h).1 d
  exact (DimensionTable.check_eq_ok.mp hd).2.2.2.2.2.2.1

/-- What markers that pass their check fulfil. Of a row nothing is asked but its place. -/
theorem MarkerTable.check_eq_ok {d : Dimension} {t : MarkerTable α} :
    t.check d = .ok () ↔
      (∀ m ∈ Marker.all, (t.channel m).forM (checkChannel d m) = .ok ()) ∧
        (t.ore.isNone ∨ t.oreBands ≠ []) ∧
        isAscending (fun a b => a.belowY < b.belowY) t.oreBands ∧
        (t.structure_.isNone ∨ ¬ t.structureBands.isEmpty) ∧
        isAscending (fun a b => decide (a.maxDepth < b.maxDepth)) t.structureBands := by
  unfold check
  simp only [check_bind_eq_ok, check_forM_eq_ok, require_eq_ok]

/-- The markers of every dimension of an accepted table pass their check. -/
theorem Table.markers_check {t : Table α} (h : t.check = .ok ()) (d : Dimension) :
    (t.dimension d).markers.check d = .ok () := by
  have hd := (Table.check_eq_ok.mp h).1 d
  exact (DimensionTable.check_eq_ok.mp hd).2.2.2.2.2.2.2

/-- The height bounds of every dimension of an accepted table are in order. -/
theorem Table.minHeight_le_maxHeight {t : Table α} (h : t.check = .ok ()) (d : Dimension) :
    (t.dimension d).height.minHeight ≤ (t.dimension d).height.maxHeight := by
  have hd := (Table.check_eq_ok.mp h).1 d
  have hh := (DimensionTable.check_eq_ok.mp hd).1
  exact (HeightProfile.check_eq_ok.mp hh).2.2.2.2.2

theorem Table.check_default : (Table.default : Table Float).check = .ok () := by
  have h : (Table.default : Table Float).check.toBool = true := by decide +kernel
  exact check_eq_ok_of_toBool h

theorem Table.check_default_rat : (Table.default : Table Rat).check = .ok () := by
  have h : (Table.default : Table Rat).check.toBool = true := by decide +kernel
  exact check_eq_ok_of_toBool h

end Landform
