import Landform.Proofs.Settings.Equality
import Landform.Proofs.Table.Whole
import Landform.Proofs.Table.Writable
import Landform.Settings.Folder

/-! # Settings are kept

Settings are read from the text that is written of them. So a folder gives back what is saved there,
and nothing has changed as long as nothing else is saved. -/

namespace Landform

open Form
open Ron (Writable)

/-! ## Documents -/

section Documents

variable {f : Form} (hf : f.namedRecords = false)
include hf

theorem WorkerSettings.read_toDocument (w : WorkerSettings) :
    WorkerSettings.ofDocument? f w.toDocument = some w := by
  have hstates : f.StatesRecord "WorkerConfig"
      [("threads", some (StatesWord64 w.threads)),
        ("queue_capacity", some (StatesWord64 w.queueCapacity)),
        ("result_capacity", some (StatesWord64 w.resultCapacity)),
        ("parallel_columns", some (· = .bool w.parallelColumns))] w.toDocument := by
    apply StatesRecord.of_answers hf
    · simp
    · simp only [List.forall₂_cons]
      exact ⟨.of (statesWord64 _), .of (statesWord64 _), .of (statesWord64 _), .of rfl, .nil⟩
  apply StatesRecord.read hstates
  intro r hgives
  simp only [List.forall_mem_cons] at hgives
  obtain ⟨hthreads, hqueue, hresult, hparallel, -⟩ := hgives
  have hbool : Form.bool? (.bool w.parallelColumns) = some w.parallelColumns := rfl
  simp only [hthreads.given? _ fun _ => word64?_of_states,
    hqueue.given? _ fun _ => word64?_of_states, hresult.given? _ fun _ => word64?_of_states,
    hparallel.given?_eq _ hbool]
  rfl

theorem RunSettings.read_toDocument (r : RunSettings) :
    RunSettings.ofDocument? f r.toDocument = some r := by
  have hstates : f.StatesRecord "RunConfig"
      [("seed", some (StatesWord64 r.seed)), ("dimension", some (· = .text r.dimension)),
        ("center_x", some (StatesInt32 r.centerX)), ("center_z", some (StatesInt32 r.centerZ)),
        ("radius", some (StatesWord32 r.radius))] r.toDocument := by
    apply StatesRecord.of_answers hf
    · simp
    · simp only [List.forall₂_cons]
      exact ⟨.of (statesWord64 _), .of rfl, .of (statesInt32 _), .of (statesInt32 _),
        .of (statesWord32 _), .nil⟩
  apply StatesRecord.read hstates
  intro fields hgives
  simp only [List.forall_mem_cons] at hgives
  obtain ⟨hseed, hdimension, hcenterX, hcenterZ, hradius, -⟩ := hgives
  have htext : Form.text? (.text r.dimension) = some r.dimension := rfl
  simp only [hseed.given? _ fun _ => word64?_of_states, hdimension.given?_eq _ htext,
    hcenterX.given? _ fun _ => int32?_of_states, hcenterZ.given? _ fun _ => int32?_of_states,
    hradius.given? _ fun _ => word32?_of_states]
  rfl

theorem DebugSettings.read_toDocument (g : DebugSettings) :
    DebugSettings.ofDocument? f g.toDocument = some g := by
  have hstates : f.StatesRecord "DebugConfig"
      [("log_level", some (· = .text g.logLevel)), ("json_log", some (· = .bool g.jsonLog))]
      g.toDocument := by
    apply StatesRecord.of_answers hf
    · simp
    · simp only [List.forall₂_cons]
      exact ⟨.of rfl, .of rfl, .nil⟩
  apply StatesRecord.read hstates
  intro r hgives
  simp only [List.forall_mem_cons] at hgives
  obtain ⟨hlevel, hjson, -⟩ := hgives
  have htext : Form.text? (.text g.logLevel) = some g.logLevel := rfl
  have hbool : Form.bool? (.bool g.jsonLog) = some g.jsonLog := rfl
  simp only [hlevel.given?_eq _ htext, hjson.given?_eq _ hbool]
  rfl

variable (hwords : f.quotedWords = false)
include hwords

/-- Settings are read from their document. -/
theorem Settings.read_toDocument (s : Settings) : Settings.ofDocument? f s.toDocument = some s := by
  have hstates : f.StatesRecord "Config"
      [("worker", some (· = s.worker.toDocument)),
        ("generation", some (· = s.generation.toDocument)),
        ("run", some (· = s.run.toDocument)), ("debug", some (· = s.debug.toDocument))]
      s.toDocument := by
    apply StatesRecord.of_answers hf
    · simp
    · simp only [List.forall₂_cons]
      exact ⟨.of rfl, .of rfl, .of rfl, .of rfl, .nil⟩
  apply StatesRecord.read hstates
  intro r hgives
  simp only [List.forall_mem_cons] at hgives
  obtain ⟨hworker, hgeneration, hrun, hdebug, -⟩ := hgives
  simp only [hworker.given?_eq _ (s.worker.read_toDocument hf),
    hgeneration.given?_eq _ (s.generation.read_toDocument hf hwords),
    hrun.given?_eq _ (s.run.read_toDocument hf), hdebug.given?_eq _ (s.debug.read_toDocument hf)]
  rfl

end Documents

/-! ## Texts -/

theorem WorkerSettings.writable (w : WorkerSettings) : Writable 2 w.toDocument := by
  apply Writable.record (List.cons_ne_nil _ _)
  · simp only [List.forall_mem_cons]
    decide
  · simp only [List.forall_mem_cons]
    exact ⟨.word64 _, .word64 _, .word64 _, .bool _ _, nofun⟩

theorem RunSettings.writable (r : RunSettings) : Writable 2 r.toDocument := by
  apply Writable.record (List.cons_ne_nil _ _)
  · simp only [List.forall_mem_cons]
    decide
  · simp only [List.forall_mem_cons]
    exact ⟨.word64 _, .text _ _, .int32 _, .int32 _, .word32 _, nofun⟩

theorem DebugSettings.writable (g : DebugSettings) : Writable 2 g.toDocument := by
  apply Writable.record (List.cons_ne_nil _ _)
  · simp only [List.forall_mem_cons]
    decide
  · simp only [List.forall_mem_cons]
    exact ⟨.text _ _, .bool _ _, nofun⟩

/-- Settings without undefined numbers. -/
def Settings.AllNumbers (s : Settings) : Prop := s.generation.Every Quantity.IsNumber

instance (s : Settings) : Decidable s.AllNumbers :=
  inferInstanceAs (Decidable (s.generation.Every Quantity.IsNumber))

variable {s : Settings}

theorem Settings.writable (h : s.AllNumbers) : Writable 13 s.toDocument := by
  apply Writable.record (List.cons_ne_nil _ _)
  · simp only [List.forall_mem_cons]
    decide
  · simp only [List.forall_mem_cons]
    exact ⟨s.worker.writable.mono (by decide), Table.writable h, s.run.writable.mono (by decide),
      s.debug.writable.mono (by decide), nofun⟩

/-- Settings are read from the text that is written of them. -/
theorem Settings.ofRon?_toRon (h : s.AllNumbers) : Settings.ofRon? s.toRon = some s := by
  have hread : Ron.read? Settings.optionPaths s.toRon = some (.none, s.toDocument) :=
    Ron.read?_print (Settings.writable h) (by decide)
  rw [Settings.ofRon?, hread]
  exact Settings.read_toDocument (f := .ron .none) rfl rfl s

theorem Settings.AllNumbers.isDefined (h : s.AllNumbers) : s.IsDefined :=
  Table.Every.imp (fun _ hnumber => hnumber.1) h

theorem fromUTF8?_toUTF8 (text : String) : String.fromUTF8? text.toUTF8 = some text :=
  dif_pos text.isValidUTF8

theorem Folder.read_holding (h : s.AllNumbers) :
    (Folder.holding s.toRon.toUTF8).read = .ok s := by
  have htext : (Folder.holding s.toRon.toUTF8).text? = some s.toRon := fromUTF8?_toUTF8 s.toRon
  simp only [Folder.read, htext, Settings.ofRon?_toRon h]

theorem Folder.load_holding (h : s.AllNumbers) :
    (Folder.holding s.toRon.toUTF8).load = .ok (s, .holding s.toRon.toUTF8) := by
  rw [Folder.load, Folder.read_holding h]
  rfl

theorem Settings.allNumbers_default : Settings.default.AllNumbers := by
  decide +kernel

end Landform
