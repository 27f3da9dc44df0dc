import Landform.Chunk.Basic
import Landform.Pool.Basic
import Landform.Settings.Basic

/-! # Events

What a batch run reports, in the order in which it happens. -/

namespace Landform

/-! ## Levels -/

/-- How much an event matters. -/
inductive Level where
  | error
  | warn
  | info
  | debug
  | trace
  deriving DecidableEq, Repr

namespace Level

/-- All levels, from the one that matters most on. -/
def all : List Level := [error, warn, info, debug, trace]

/-- How talkative a log is that shows events down to this level. -/
def verbosity : Level → Nat
  | error => 1
  | warn => 2
  | info => 3
  | debug => 4
  | trace => 5

/-- The name of the level in a log. -/
def title : Level → String
  | error => "ERROR"
  | warn => "WARN"
  | info => "INFO"
  | debug => "DEBUG"
  | trace => "TRACE"

end Level

/-! ## Events -/

/-- Why a batch run ends early. -/
inductive BatchError where
  | settings (error : SettingsError)
  | request (error : RequestError)
  /-- So many results did not come. -/
  | timedOut (count : Nat)

/-- The wording of an error. -/
def BatchError.message : BatchError → String
  | settings e => e.message
  | request e => e.message
  | timedOut count => "timed out waiting for " ++ toString count ++ " chunk(s)"

/-- The part of a chunk that is reported. -/
structure ChunkSummary where
  checksum : UInt32
  solid : Nat
  /-- The biomes that occur, with the numbers of their columns. -/
  biomes : List (Biome × Nat)
  anomalies : Nat
  deriving DecidableEq, Repr

/-- What is reported of a chunk. -/
def Chunk.summary (c : Chunk) : ChunkSummary where
  checksum := c.checksum
  solid := c.diagnostics.solid
  biomes := (Biome.all.zip c.biomeHistogram).filter (0 < ·.2)
  anomalies := c.diagnostics.anomalies

/-- An event of a batch run. -/
inductive Event where
  | started (count : Nat) (x z : Int32) (dimension : Dimension) (workers : Nat)
  | generated (key : ChunkKey) (chunk : ChunkSummary)
  | failed (key : ChunkKey) (error : RequestError)
  /-- A key was pending when it was its turn. -/
  | skipped (error : SubmitError)
  | finished (tally : Tally) (anomalies : Nat)
  /-- The run is over and so many chunks failed. -/
  | incomplete (failures : Nat)
  | aborted (error : BatchError)

namespace Event

/-- The event that a result is. -/
def ofResult (r : TaskResult Chunk) : Event :=
  match r.outcome with
  | .ok chunk => generated r.task.key chunk.summary
  | .error e => failed r.task.key e

/-- How much the event matters. -/
def level : Event → Level
  | started .. | generated .. | finished .. => .info
  | skipped _ => .warn
  | failed .. | incomplete _ | aborted _ => .error

/-- The text of the event. What took time says how much. -/
def message (time : String) : Event → String
  | started count x z dimension workers =>
    "Generating " ++ toString count ++ " chunk(s) around [" ++ toString x.toInt ++ ", " ++
      toString z.toInt ++ "] in " ++ dimension.name ++ " with " ++ toString workers ++ " worker(s)"
  | generated key chunk =>
    let biomes := chunk.biomes.map fun (b, n) => b.title ++ "=" ++ toString n
    "Chunk " ++ key.text ++ " hash=" ++ Text.hexPadded 8 chunk.checksum.toNat ++ " solid=" ++
      toString chunk.solid ++ " biomes[" ++ " ".intercalate biomes ++ "] in " ++ time ++ "us"
  | failed key error => "Chunk " ++ key.text ++ " failed: " ++ error.message
  | skipped error => "Skipping duplicate request: " ++ error.message
  | finished tally anomalies =>
    "Done in " ++ time ++ ": " ++ toString tally.generated ++ " generated, " ++
      toString tally.failed ++ " failed, " ++ toString tally.cancelled ++ " cancelled, " ++
      toString anomalies ++ " numeric anomalies"
  | incomplete failures => toString failures ++ " chunk(s) failed"
  | aborted error => error.message

end Event

end Landform
