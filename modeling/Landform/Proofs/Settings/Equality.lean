import Landform.Proofs.Number.Equality
import Landform.Proofs.Table.Every
import Landform.Settings.Basic

/-! # When settings are equal

Tables are compared number by number, and numbers are equal only where they are defined. So settings
are equal to those that say the same, up to the sign of zero, unless their table holds an undefined
number: then they are equal to none, themselves included. -/

namespace Landform

/-- Equality holds of values with a property, and compares what a function makes of them. -/
def EqualBy {β γ : Type} [BEq β] (p : β → Prop) (f : β → γ) : Prop :=
  ∀ b b', (b == b') = true ↔ p b ∧ f b = f b'

/-! ## Lists and options -/

section Containers

variable {β γ : Type} [BEq β] {p : β → Prop} {f : β → γ} (h : EqualBy p f)
include h

theorem EqualBy.list : EqualBy (fun bs : List β => ∀ b ∈ bs, p b) (List.map f) := by
  intro bs bs'
  induction bs generalizing bs' with
  | nil => cases bs' <;> simp
  | cons b bs ih =>
    cases bs' with
    | nil => simp
    | cons b' bs' =>
      rw [List.cons_beq_cons, Bool.and_eq_true, h, ih]
      simp only [List.forall_mem_cons, List.map_cons, List.cons.injEq]
      exact and_and_and_comm

theorem EqualBy.option : EqualBy (fun b : Option β => ∀ v ∈ b, p v) (Option.map f) := by
  intro b b'
  cases b <;> cases b' <;> simp [h _ _]

end Containers

/-! ## Tables

In each table the parts are compared one after the other. What is required of the numbers and what
is compared of them is then put together. -/

deriving instance ReflBEq, LawfulBEq for OreBand

section Tables

variable {α γ : Type} [BEq α] {p : α → Prop} {f : α → γ} (h : EqualBy p f)
include h

theorem NoiseLayer.equalBy : EqualBy (NoiseLayer.Every p) (NoiseLayer.map f) := by
  intro l l'
  change (_ && (_ && (_ && _))) = true ↔ _
  simp only [Bool.and_eq_true, beq_iff_eq, h _ _, Every, map, mk.injEq]
  tauto

theorem RidgeLayer.equalBy : EqualBy (RidgeLayer.Every p) (RidgeLayer.map f) := by
  intro l l'
  change (_ && (_ && (_ && (_ && _)))) = true ↔ _
  simp only [Bool.and_eq_true, beq_iff_eq, h _ _, Every, map, mk.injEq]
  tauto

theorem NoiseChannel.equalBy : EqualBy (NoiseChannel.Every p) (NoiseChannel.map f) := by
  intro c c'
  change (_ && (_ && _)) = true ↔ _
  simp only [Bool.and_eq_true, beq_iff_eq, h _ _, Every, map, mk.injEq]
  tauto

theorem MarkerChannel.equalBy : EqualBy (MarkerChannel.Every p) (MarkerChannel.map f) := by
  intro c c'
  change (_ && (_ && (_ && _))) = true ↔ _
  simp only [Bool.and_eq_true, beq_iff_eq, h _ _, Every, map, mk.injEq]
  tauto

theorem HeightProfile.equalBy : EqualBy (HeightProfile.Every p) (HeightProfile.map f) := by
  have hlayers := (NoiseLayer.equalBy h).list
  have hridge := (RidgeLayer.equalBy h).option
  intro l l'
  change (_ && (_ && (_ && (_ && _)))) = true ↔ _
  simp only [Bool.and_eq_true, h _ _, hlayers _ _, hridge _ _, Every, map, mk.injEq]
  tauto

theorem CaveCarving.equalBy : EqualBy (CaveCarving.Every p) (CaveCarving.map f) := by
  intro c c'
  change (_ && (_ && (_ && (_ && (_ && (_ && _)))))) = true ↔ _
  simp only [Bool.and_eq_true, beq_iff_eq, h _ _, Every, map, mk.injEq]
  tauto

theorem MaterialBand.equalBy : EqualBy (MaterialBand.Every p) (MaterialBand.map f) := by
  intro b b'
  change (_ && (_ && (_ && (_ && _)))) = true ↔ _
  simp only [Bool.and_eq_true, beq_iff_eq, h _ _, h.option _ _, Every, map, mk.injEq]
  tauto

theorem MaterialBands.equalBy : EqualBy (MaterialBands.Every p) (MaterialBands.map f) := by
  have hbands := (MaterialBand.equalBy h).list
  intro b b'
  change (_ && _) = true ↔ _
  simp only [Bool.and_eq_true, beq_iff_eq, hbands _ _, Every, map, mk.injEq]
  tauto

theorem StructureBand.equalBy : EqualBy (StructureBand.Every p) (StructureBand.map f) := by
  intro b b'
  change (_ && _) = true ↔ _
  simp only [Bool.and_eq_true, beq_iff_eq, h _ _, Every, map, mk.injEq]
  tauto

theorem MarkerTable.equalBy : EqualBy (MarkerTable.Every p) (MarkerTable.map f) := by
  have hchannel := (MarkerChannel.equalBy h).option
  have hbands := (StructureBand.equalBy h).list
  intro t t'
  change (_ && (_ && (_ && (_ && (_ && (_ && _)))))) = true ↔ _
  simp only [Bool.and_eq_true, beq_iff_eq, hchannel _ _, hbands _ _, Every, map, mk.injEq]
  tauto

theorem DimensionTable.equalBy : EqualBy (DimensionTable.Every p) (DimensionTable.map f) := by
  have hcaves := (CaveCarving.equalBy h).option
  intro t t'
  change (_ && (_ && (_ && (_ && (_ && _))))) = true ↔ _
  simp only [Bool.and_eq_true, beq_iff_eq, HeightProfile.equalBy h _ _, hcaves _ _,
    NoiseLayer.equalBy h _ _, MaterialBands.equalBy h _ _, MarkerTable.equalBy h _ _, Every, map,
    mk.injEq]
  tauto

theorem ClimateTable.equalBy : EqualBy (ClimateTable.Every p) (ClimateTable.map f) := by
  intro c c'
  change (_ && (_ && (_ && (_ && _)))) = true ↔ _
  simp only [Bool.and_eq_true, NoiseChannel.equalBy h _ _, h _ _, Every, map, mk.injEq]
  tauto

theorem SmoothingTable.equalBy : EqualBy (SmoothingTable.Every p) (SmoothingTable.map f) := by
  intro s s'
  change (_ && _) = true ↔ _
  simp only [Bool.and_eq_true, h _ _, Every, map, mk.injEq]
  tauto

theorem Table.equalBy : EqualBy (Table.Every p) (Table.map f) := by
  intro t t'
  change (_ && (_ && (_ && (_ && _)))) = true ↔ _
  simp only [Bool.and_eq_true, DimensionTable.equalBy h _ _, ClimateTable.equalBy h _ _,
    SmoothingTable.equalBy h _ _, Every, map, mk.injEq]
  tauto

end Tables

/-! ## Settings -/

/-- A quantity that is not undefined. -/
def Quantity.IsDefined (q : Quantity) : Prop := q.value.isNaN = false

instance : DecidablePred Quantity.IsDefined := fun _ => inferInstanceAs (Decidable (_ = false))

theorem Quantity.equalBy : EqualBy Quantity.IsDefined (fun q => unsignZero q.value) :=
  fun _ _ => beq_iff_unsignZero

namespace Settings

/-- Every number of the settings is defined. -/
def IsDefined (s : Settings) : Prop := s.generation.Every Quantity.IsDefined

instance (s : Settings) : Decidable s.IsDefined :=
  inferInstanceAs (Decidable (s.generation.Every Quantity.IsDefined))

/-- Settings that say the same, in every part and with every number. Zero is the same with either
sign. -/
structure Same (s t : Settings) : Prop where
  worker : s.worker = t.worker
  generation :
    s.generation.map (fun q => unsignZero q.value) = t.generation.map fun q => unsignZero q.value
  run : s.run = t.run
  debug : s.debug = t.debug

theorem Same.refl (s : Settings) : s.Same s := ⟨rfl, rfl, rfl, rfl⟩

/-- Settings are equal that say the same, unless a number of them is undefined. -/
theorem beq_iff {s t : Settings} : (s == t) = true ↔ s.IsDefined ∧ s.Same t := by
  have htable := Table.equalBy Quantity.equalBy s.generation t.generation
  change (_ && (_ && (_ && _))) = true ↔ _
  simp only [Bool.and_eq_true, beq_iff_eq, htable]
  -- only the comparison of the tables asks for more than that the parts are the same
  constructor
  · rintro ⟨hworker, ⟨hdefined, hgeneration⟩, hrun, hdebug⟩
    exact ⟨hdefined, hworker, hgeneration, hrun, hdebug⟩
  · rintro ⟨hdefined, hworker, hgeneration, hrun, hdebug⟩
    exact ⟨hworker, ⟨hdefined, hgeneration⟩, hrun, hdebug⟩

end Settings

end Landform
