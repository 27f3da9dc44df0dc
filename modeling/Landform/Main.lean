import Landform.Batch.Session

/-! # Command line

Makes the square of chunks that the settings folder and the options ask for, and logs what it
does. -/

namespace Landform.CommandLine

/-- The name of the file in a settings folder. -/
def fileName : String := "config.ron"

/-- The settings folder if no option names one. -/
def defaultPath : IO String := do
  match ← IO.getEnv "XDG_CONFIG_HOME", ← IO.getEnv "HOME" with
  | some dir, _ => return dir ++ "/landform"
  | none, some dir => return dir ++ "/.config/landform"
  | none, none => return "./landform"

/-- What stands at a path. -/
def folderAt (path : String) : IO Folder := do
  try
    return .holding (← IO.FS.readBinFile (path ++ "/" ++ fileName))
  catch
    | .noFileOrDirectory .. => return .vacant
    | _ => return .blocked

/-- Puts the file of a folder at a path, and says whether that was possible. -/
def keep (path : String) : Folder → IO Bool
  | .holding file => do
    try
      IO.FS.createDirAll path
      IO.FS.writeBinFile (path ++ "/" ++ fileName) file
      return true
    catch _ => return false
  | .vacant | .blocked => return true

/-- Loads the settings at a path. -/
def load (path : String) : IO (Settings × Option SettingsError) := do
  let before ← folderAt path
  let (s, after, error) := before.loadOrDefault
  match before, error with
  | .vacant, none => return (s, if ← keep path after then none else some .unwritable)
  | _, _ => return (s, error)

/-- The events that are shown go to the output. -/
def log (filter : LogFilter) (time : String) (e : Event) : IO Unit := do
  if filter.shows e then
    IO.println (e.level.title ++ " " ++ LogFilter.batchSource ++ ": " ++ e.message time)

/-- Microseconds since some moment. -/
def now : IO Nat := return (← IO.monoNanosNow) / 1000

/-- Makes at most so many calls of a batch and logs them as they happen. -/
def makeCalls (filter : LogFilter) (make : Maker Chunk) : Nat → Batch → IO Batch
  | 0, b => return b
  | count + 1, b => do
    let start ← now
    match b.next? make with
    | none => return b
    | some (b, event) =>
      let time := (← now) - start
      event.forM (log filter (toString time))
      makeCalls filter make count b

/-- Runs a job, and gives the exit code. -/
def runJob (filter : LogFilter) (j : Job) : IO UInt32 := do
  log filter "" j.opening
  let start ← now
  let b ← makeCalls filter j.make j.batch.calls j.batch
  let time := toString ((← now) - start) ++ "µs"
  b.closing.forM (log filter time)
  return if b.succeeded then 0 else 1

/-- What the options are. -/
def usage : String :=
  "Deterministic chunk terrain generator\n\nOptions:\n" ++
    String.join (OptionName.all.map fun n => "  --" ++ n.text ++ " <value>\n") ++
    "  --sequential\n  -h, --help"

/-- Why a command line is refused. -/
def complaint : OptionsError → String
  | .help => usage
  | .unknownArgument => "error: unexpected argument"
  | .missingValue => "error: a value is required for an option but none was supplied"
  | .wrongValue => "error: invalid value for an option"
  | .repeated => "error: an option cannot be used multiple times"
  | .needlessValue => "error: unexpected value for an option"

/-- The whole program, on a machine that would choose one worker on its own. -/
def run (args : List String) : IO UInt32 := do
  match Options.ofArguments args with
  | .error .help =>
    IO.println usage
    return OptionsError.help.exitCode
  | .error e =>
    IO.eprintln (complaint e)
    return e.exitCode
  | .ok options =>
    let (s, error) ← load (← options.config.getDM defaultPath)
    error.forM fun e => IO.eprintln ("Failed to load config: " ++ e.message ++ ", using defaults")
    let s := options.override s
    match LogFilter.ofText? s.debug.logLevel with
    | none =>
      IO.eprintln "error: the log level cuts a character in two"
      return Session.brokenCode
    | some filter =>
      match Job.ofSettings 1 s with
      | .ok job =>
        if job.batch.pool.fits then runJob filter job
        else
          IO.eprintln "error: the capacities are more than fits in memory"
          return Session.brokenCode
      | .error e =>
        log filter "" (.aborted e)
        return 1

end Landform.CommandLine

/-- Runs the program. -/
def main (args : List String) : IO UInt32 := Landform.CommandLine.run args
