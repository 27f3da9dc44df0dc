import Landform.Proofs.Document.Numerals
import Landform.Proofs.Table.Every
import Landform.Table.Write

/-! # Tables are written so that they can be read

The document of a table of numbers can be written: its words are plain, its numbers are read as they
are printed, and it is not nested deeply. -/

namespace Landform

open Ron (Writable IsPlain)

namespace Ron

theorem Writable.mono {m n : Nat} {d : Document} (h : Writable m d) (hmn : m ≤ n) :
    Writable n d := by
  -- deeper values take one or two levels away, so the greater bound is taken apart with them
  induction h generalizing n with
  | absent => exact .absent n
  | bool _ b => exact .bool n b
  | number _ h => exact .number n h
  | text _ s => exact .text n s
  | word _ h => exact .word n h
  | @present m d _ ih =>
    obtain ⟨n, rfl⟩ : ∃ k, n = k + 1 := ⟨n - 1, by omega⟩
    exact .present (ih (by omega))
  | @list m ds _ ih =>
    obtain ⟨n, rfl⟩ : ∃ k, n = k + 2 := ⟨n - 2, by omega⟩
    exact .list fun d hd => ih d hd (by omega)
  | @record m fs hfields hnames _ ih =>
    obtain ⟨n, rfl⟩ : ∃ k, n = k + 2 := ⟨n - 2, by omega⟩
    exact .record hfields hnames fun f hf => ih f hf (by omega)

variable {n : Nat}

theorem Writable.integer {i : Int} (h : -0x8000000000000000 ≤ i ∧ i ≤ 0xFFFFFFFFFFFFFFFF) :
    Writable n (.integer i) := .number n (isNumber_integer (if_pos h))

theorem Writable.word32 (v : UInt32) : Writable n (.integer v.toNat) := by
  have hv := v.toNat_lt
  exact .integer (by omega)

theorem Writable.word64 (v : UInt64) : Writable n (.integer v.toNat) := by
  have hv := v.toNat_lt
  exact .integer (by omega)

theorem Writable.int32 (v : Int32) : Writable n (.integer v.toInt) := by
  have hlo := v.le_toInt
  have hhi := v.toInt_lt
  exact .integer (by omega)

theorem Writable.real {q : Quantity} (h : q.IsNumber) : Writable n (.real q) :=
  .number n (isNumber_quantity h)

theorem Writable.material (m : Material) : Writable n (.word m.word) := by
  apply Writable.word
  cases m <;> exact ⟨by decide, by decide, by decide⟩

theorem Writable.ofOption {β : Type} {write : β → Document} {o : Option β}
    (h : ∀ v ∈ o, Writable n (write v)) : Writable (n + 1) (.ofOption write o) := by
  cases o with
  | none => exact .absent _
  | some v => exact .present (h v rfl)

theorem Writable.rows {β : Type} {write : β → Document} {vs : List β}
    (h : ∀ v ∈ vs, Writable n (write v)) : Writable (n + 2) (.list (vs.map write)) :=
  .list (List.forall_mem_map.mpr h)

end Ron

theorem NoiseLayer.writable {l : NoiseLayer Quantity} (h : l.Every Quantity.IsNumber) :
    Writable 2 l.toDocument := by
  obtain ⟨hfrequency, hamplitude⟩ := h
  apply Writable.record (List.cons_ne_nil _ _)
  · simp only [List.forall_mem_cons]
    decide
  · simp only [List.forall_mem_cons]
    exact ⟨.word32 _, .real hfrequency, .real hamplitude, .word64 _, nofun⟩

theorem RidgeLayer.writable {l : RidgeLayer Quantity} (h : l.Every Quantity.IsNumber) :
    Writable 2 l.toDocument := by
  obtain ⟨hfrequency, hamplitude, hsharpness⟩ := h
  apply Writable.record (List.cons_ne_nil _ _)
  · simp only [List.forall_mem_cons]
    decide
  · simp only [List.forall_mem_cons]
    exact ⟨.word32 _, .real hfrequency, .real hamplitude, .real hsharpness, .word64 _, nofun⟩

theorem NoiseChannel.writable {c : NoiseChannel Quantity} (h : c.Every Quantity.IsNumber) :
    Writable 2 c.toDocument := by
  apply Writable.record (List.cons_ne_nil _ _)
  · simp only [List.forall_mem_cons]
    decide
  · simp only [List.forall_mem_cons]
    exact ⟨.word32 _, .real h, .word64 _, nofun⟩

theorem MarkerChannel.writable {c : MarkerChannel Quantity} (h : c.Every Quantity.IsNumber) :
    Writable 2 c.toDocument := by
  obtain ⟨hfrequency, hthreshold⟩ := h
  apply Writable.record (List.cons_ne_nil _ _)
  · simp only [List.forall_mem_cons]
    decide
  · simp only [List.forall_mem_cons]
    exact ⟨.word32 _, .real hfrequency, .real hthreshold, .word64 _, nofun⟩

theorem HeightProfile.writable {p : HeightProfile Quantity} (h : p.Every Quantity.IsNumber) :
    Writable 6 p.toDocument := by
  obtain ⟨hbase, hlayers, hridge, hmin, hmax⟩ := h
  apply Writable.record (List.cons_ne_nil _ _)
  · simp only [List.forall_mem_cons]
    decide
  · simp only [List.forall_mem_cons]
    exact ⟨.real hbase, (Writable.rows fun l hl => NoiseLayer.writable (hlayers l hl)),
      (Writable.ofOption fun r hr => RidgeLayer.writable (hridge r hr)).mono (by decide),
      .real hmin, .real hmax, nofun⟩

theorem CaveCarving.writable {c : CaveCarving Quantity} (h : c.Every Quantity.IsNumber) :
    Writable 2 c.toDocument := by
  obtain ⟨hfrequency, hinner, houter, hshell⟩ := h
  apply Writable.record (List.cons_ne_nil _ _)
  · simp only [List.forall_mem_cons]
    decide
  · simp only [List.forall_mem_cons]
    exact ⟨.word32 _, .real hfrequency, .real hinner, .real houter, .real hshell, .word32 _,
      .word64 _, nofun⟩

theorem MaterialBand.writable {b : MaterialBand Quantity} (h : b.Every Quantity.IsNumber) :
    Writable 3 b.toDocument := by
  obtain ⟨hmin, hmax⟩ := h
  apply Writable.record (List.cons_ne_nil _ _)
  · simp only [List.forall_mem_cons]
    decide
  · simp only [List.forall_mem_cons]
    exact ⟨.int32 _, .int32 _, .real hmin, Writable.ofOption fun q hq => .real (hmax q hq),
      .material _, nofun⟩

theorem MaterialBands.writable {b : MaterialBands Quantity} (h : b.Every Quantity.IsNumber) :
    Writable 7 b.toDocument := by
  apply Writable.record (List.cons_ne_nil _ _)
  · simp only [List.forall_mem_cons]
    decide
  · simp only [List.forall_mem_cons]
    exact ⟨Writable.rows fun band hband => MaterialBand.writable (h band hband), .material _, nofun⟩

theorem OreBand.writable (b : OreBand) : Writable 2 b.toDocument := by
  apply Writable.record (List.cons_ne_nil _ _)
  · simp only [List.forall_mem_cons]
    decide
  · simp only [List.forall_mem_cons]
    exact ⟨.int32 _, .material _, nofun⟩

theorem StructureBand.writable {b : StructureBand Quantity} (h : b.Every Quantity.IsNumber) :
    Writable 2 b.toDocument := by
  apply Writable.record (List.cons_ne_nil _ _)
  · simp only [List.forall_mem_cons]
    decide
  · simp only [List.forall_mem_cons]
    exact ⟨.real h, .material _, nofun⟩

theorem MarkerTable.writable {t : MarkerTable Quantity} (h : t.Every Quantity.IsNumber) :
    Writable 6 t.toDocument := by
  obtain ⟨hcave, hore, hwater, hstructure, hbands⟩ := h
  have hchannel {o : Option (MarkerChannel Quantity)} (ho : ∀ c ∈ o, c.Every Quantity.IsNumber) :
      Writable 4 (.ofOption MarkerChannel.toDocument o) :=
    (Writable.ofOption fun c hc => MarkerChannel.writable (ho c hc)).mono (by decide)
  apply Writable.record (List.cons_ne_nil _ _)
  · simp only [List.forall_mem_cons]
    decide
  · simp only [List.forall_mem_cons]
    exact ⟨hchannel hcave, hchannel hore, Writable.rows fun b _ => b.writable, hchannel hwater,
      .int32 _, hchannel hstructure, Writable.rows fun b hb => StructureBand.writable (hbands b hb),
      nofun⟩

theorem DimensionTable.writable {t : DimensionTable Quantity} (h : t.Every Quantity.IsNumber) :
    Writable 9 t.toDocument := by
  obtain ⟨hheight, hcaves, hripple, hbands, hmarkers⟩ := h
  apply Writable.record (List.cons_ne_nil _ _)
  · simp only [List.forall_mem_cons]
    decide
  · simp only [List.forall_mem_cons]
    exact ⟨(HeightProfile.writable hheight).mono (by decide), .word32 _,
      (Writable.ofOption fun c hc => CaveCarving.writable (hcaves c hc)).mono (by decide),
      (NoiseLayer.writable hripple).mono (by decide), MaterialBands.writable hbands,
      (MarkerTable.writable hmarkers).mono (by decide), nofun⟩

theorem ClimateTable.writable {c : ClimateTable Quantity} (h : c.Every Quantity.IsNumber) :
    Writable 4 c.toDocument := by
  obtain ⟨htemperature, hhumidity, hwarm, hcold, hwet⟩ := h
  apply Writable.record (List.cons_ne_nil _ _)
  · simp only [List.forall_mem_cons]
    decide
  · simp only [List.forall_mem_cons]
    exact ⟨NoiseChannel.writable htemperature, NoiseChannel.writable hhumidity, .real hwarm,
      .real hcold, .real hwet, nofun⟩

theorem SmoothingTable.writable {s : SmoothingTable Quantity} (h : s.Every Quantity.IsNumber) :
    Writable 2 s.toDocument := by
  obtain ⟨hkeep, hclear⟩ := h
  apply Writable.record (List.cons_ne_nil _ _)
  · simp only [List.forall_mem_cons]
    decide
  · simp only [List.forall_mem_cons]
    exact ⟨.real hkeep, .real hclear, nofun⟩

theorem Table.writable {t : Table Quantity} (h : t.Every Quantity.IsNumber) :
    Writable 11 t.toDocument := by
  obtain ⟨hoverworld, hnether, hend, hclimate, hsmoothing⟩ := h
  apply Writable.record (List.cons_ne_nil _ _)
  · simp only [List.forall_mem_cons]
    decide
  · simp only [List.forall_mem_cons]
    exact ⟨DimensionTable.writable hoverworld, DimensionTable.writable hnether,
      DimensionTable.writable hend, (ClimateTable.writable hclimate).mono (by decide),
      (SmoothingTable.writable hsmoothing).mono (by decide), nofun⟩

end Landform
