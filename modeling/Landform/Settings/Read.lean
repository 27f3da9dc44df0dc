import Landform.Settings.Basic
import Landform.Table.Read

/-! # Reading settings

A document may leave out any part of the settings, and what it leaves out has its default. -/

namespace Landform

variable (f : Form)

/-- Reads how the work is shared out. -/
def WorkerSettings.ofDocument? (d : Document) : Option WorkerSettings := do
  let r ← f.record? "WorkerConfig"
    ["threads", "queue_capacity", "result_capacity", "parallel_columns"] d
  let z : WorkerSettings := {}
  pure
    { threads := ← r.getD? "threads" z.threads Form.word64?
      queueCapacity := ← r.getD? "queue_capacity" z.queueCapacity Form.word64?
      resultCapacity := ← r.getD? "result_capacity" z.resultCapacity Form.word64?
      parallelColumns := ← r.getD? "parallel_columns" z.parallelColumns Form.bool? }

/-- Reads which chunks are made. -/
def RunSettings.ofDocument? (d : Document) : Option RunSettings := do
  let r ← f.record? "RunConfig" ["seed", "dimension", "center_x", "center_z", "radius"] d
  let z : RunSettings := {}
  pure
    { seed := ← r.getD? "seed" z.seed Form.word64?
      dimension := ← r.getD? "dimension" z.dimension Form.text?
      centerX := ← r.getD? "center_x" z.centerX Form.int32?
      centerZ := ← r.getD? "center_z" z.centerZ Form.int32?
      radius := ← r.getD? "radius" z.radius Form.word32? }

/-- Reads what is logged. -/
def DebugSettings.ofDocument? (d : Document) : Option DebugSettings := do
  let r ← f.record? "DebugConfig" ["log_level", "json_log"] d
  let z : DebugSettings := {}
  pure
    { logLevel := ← r.getD? "log_level" z.logLevel Form.text?
      jsonLog := ← r.getD? "json_log" z.jsonLog Form.bool? }

/-- Reads settings. -/
def Settings.ofDocument? (d : Document) : Option Settings := do
  let r ← f.record? "Config" ["worker", "generation", "run", "debug"] d
  let z : Settings := .default
  pure
    { worker := ← r.getD? "worker" z.worker (WorkerSettings.ofDocument? f)
      generation := ← r.getD? "generation" z.generation (Table.ofDocument? f)
      run := ← r.getD? "run" z.run (RunSettings.ofDocument? f)
      debug := ← r.getD? "debug" z.debug (DebugSettings.ofDocument? f) }

/-- The options of settings are those of their table. -/
def Settings.optionPaths : List (List String) := Table.optionPaths.map ("generation" :: ·)

/-- Reads settings from RON text. -/
def Settings.ofRon? (s : String) : Option Settings := do
  let (e, d) ← Ron.read? optionPaths s
  Settings.ofDocument? (.ron e) d

end Landform
