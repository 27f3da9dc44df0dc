import Landform.Request
import Landform.Table.Check
import Landform.Table.Default
import Landform.Table.Map

/-! # Settings

What a batch run is asked to do: how many workers share the work, which table they generate by,
which chunks they make, and what is logged. -/

namespace Landform

/-- How the work is shared out. -/
structure WorkerSettings where
  /-- The number of workers; zero leaves it to the machine. -/
  threads : UInt64 := 0
  /-- How many tasks may wait. -/
  queueCapacity : UInt64 := 64
  /-- How many results may wait. -/
  resultCapacity : UInt64 := 128
  /-- The units of a chunk may run at the same time. -/
  parallelColumns : Bool := true
  deriving DecidableEq, Repr

/-- Which chunks are made: a square around a center. -/
structure RunSettings where
  seed : UInt64 := 0
  /-- A name or a code. -/
  dimension : String := Dimension.overworld.name
  centerX : Int32 := 0
  centerZ : Int32 := 0
  /-- How many chunks the square extends to each side of the center. -/
  radius : UInt32 := 2
  deriving DecidableEq, Repr

/-- What is logged. -/
structure DebugSettings where
  /-- Which events are shown, as the text of a filter. -/
  logLevel : String := "info"
  /-- The events are also kept in a file. -/
  jsonLog : Bool := true
  deriving DecidableEq, Repr

/-- All settings. Tables are compared number by number, so settings that hold an undefined number
differ from themselves. -/
structure Settings where
  worker : WorkerSettings := {}
  generation : Table Quantity := Table.default.map .ofFloat
  run : RunSettings := {}
  debug : DebugSettings := {}
  deriving BEq

namespace Settings

/-- The settings where nothing else is said. -/
def default : Settings := {}

instance : Inhabited Settings := ⟨default⟩

/-- The default settings generate by the default table. -/
theorem values_generation_default : default.generation.values = Table.default :=
  Table.values_map Table.default

end Settings

/-! ## Errors -/

/-- Why settings cannot be used. -/
inductive SettingsError where
  /-- There is no file, or it is not text. -/
  | unreadable
  /-- No file can be put in place. -/
  | unwritable
  /-- The text of the file is not that of any settings. -/
  | malformed
  /-- The settings are complete but nothing can be generated by them. -/
  | invalid (cause : RequestError)

/-- The wording of an error. -/
def SettingsError.message : SettingsError → String
  | unreadable => "failed to read config"
  | unwritable => "failed to write config"
  | malformed => "failed to parse config"
  | invalid cause => "invalid config: " ++ cause.message

/-- Passes settings whose table and dimension can be used. -/
def Settings.check (s : Settings) : Except SettingsError Unit := do
  match s.generation.values.check with
  | .ok () => pure ()
  | .error fault => throw (.invalid (.invalidTable fault))
  match Dimension.ofText s.run.dimension with
  | .ok _ => pure ()
  | .error cause => throw (.invalid cause)

end Landform
