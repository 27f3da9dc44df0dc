import Landform.Batch.Basic
import Landform.Chunk.Generate
import Landform.Log.Filter
import Landform.Settings.Folder
import Landform.Settings.Options
import Landform.Settings.Square

/-! # Sessions

A session is one run of the program: its settings come from a folder and from the command line, and
a batch of the whole square follows. -/

namespace Landform

/-! ## Jobs -/

/-- A batch that is about to start. -/
structure Job where
  make : Maker Chunk
  batch : Batch
  opening : Event

/-- The number of workers that settings ask for. -/
def WorkerSettings.threadCount (w : WorkerSettings) (machine : Nat) : Nat :=
  if w.threads = 0 then machine else w.threads.toNat

/-- The schedule that settings ask for. -/
def WorkerSettings.schedule (w : WorkerSettings) : Schedule :=
  if w.parallelColumns then .parallel else .forward

/-- The job of settings, on a machine that would choose `machine` workers on its own. -/
def Job.ofSettings (machine : Nat) (s : Settings) : Except BatchError Job := do
  s.check.mapError .settings
  let keys ← s.run.keys.mapError fun e => .settings (.invalid e)
  let generator ← (Generator.ofTable s.generation.values).mapError .request
  let dimension ← (Dimension.ofText s.run.dimension).mapError fun e => .settings (.invalid e)
  let pool := Pool.create (s.worker.threadCount machine) s.worker.queueCapacity.toNat
    s.worker.resultCapacity.toNat
  pure
    { make := fun key withdrawn => generator.generate s.worker.schedule key withdrawn
      batch := .start pool keys
      opening := .started keys.length s.run.centerX s.run.centerZ dimension pool.threads }

/-- Whether all of a job succeeds, and its events. -/
def Job.run (j : Job) : Bool × List Event :=
  let (b, events) := j.batch.run j.make
  (b.succeeded, j.opening :: events ++ b.closing)

/-! ## Sessions -/

/-- The exit code of a command line that gives no options. -/
def OptionsError.exitCode : OptionsError → UInt32
  | help => 0
  | _ => 2

/-- The settings that a session starts with, and the folder from then on. Where the folder gives no
settings the default ones are used, and the error is kept. -/
def Folder.loadOrDefault (folder : Folder) : Settings × Folder × Option SettingsError :=
  match folder.load with
  | .ok (s, folder) => (s, folder, none)
  | .error e => (.default, folder, some e)

/-- What a session leaves behind. -/
structure Session where
  exitCode : UInt32
  /-- Why the folder gave no settings. -/
  loadError : Option SettingsError
  folder : Folder
  /-- The events that the log shows. -/
  log : List Event

/-- The exit code of a session that breaks off: its settings say no log filter, or ask for a pool
that does not fit in memory. -/
def Session.brokenCode : UInt32 := 101

/-- The session of a command line and a settings folder. Nothing is made without a log filter. -/
def Session.run (machine : Nat) (args : List String) (folder : Folder) : Session :=
  match Options.ofArguments args with
  | .error e => ⟨e.exitCode, none, folder, []⟩
  | .ok options =>
    let (s, folder, loadError) := folder.loadOrDefault
    let s := options.override s
    match LogFilter.ofText? s.debug.logLevel with
    | none => ⟨brokenCode, loadError, folder, []⟩
    | some filter =>
      let finished (succeeded : Bool) (events : List Event) : Session :=
        ⟨if succeeded then 0 else 1, loadError, folder, events.filter filter.shows⟩
      match Job.ofSettings machine s with
      | .ok job =>
        if job.batch.pool.fits then finished job.run.1 job.run.2
        else ⟨brokenCode, loadError, folder, []⟩
      | .error e => finished false [.aborted e]

end Landform
