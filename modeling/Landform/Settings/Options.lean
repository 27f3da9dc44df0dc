import Landform.Settings.Basic

/-! # Command-line options

Options take the place of single settings. An option stands before its value, `--name value`, or
together with it, `--name=value`. Nothing but options is expected. -/

namespace Landform

/-! ## Names -/

/-- An option with a value. -/
inductive OptionName where
  | seed
  | dimension
  | centerX
  | centerZ
  | radius
  | threads
  | logLevel
  | config
  deriving DecidableEq, Repr

namespace OptionName

/-- All options with a value. -/
def all : List OptionName :=
  [seed, dimension, centerX, centerZ, radius, threads, logLevel, config]

/-- The name on the command line, after two dashes. -/
def text : OptionName → String
  | seed => "seed"
  | dimension => "dimension"
  | centerX => "center-x"
  | centerZ => "center-z"
  | radius => "radius"
  | threads => "threads"
  | logLevel => "log-level"
  | config => "config"

/-- The option with the given name. -/
def ofText? (name : String) : Option OptionName := all.find? (·.text == name)

/-- Whatever follows the option is its value, even if it looks like an option. -/
def takesAnything : OptionName → Bool
  | centerX | centerZ => true
  | _ => false

end OptionName

/-! ## Options and what is wrong with them -/

/-- The options that are given. -/
structure Options where
  seed : Option UInt64 := none
  dimension : Option String := none
  centerX : Option Int32 := none
  centerZ : Option Int32 := none
  radius : Option UInt32 := none
  threads : Option UInt64 := none
  /-- Each chunk is made by one worker alone. -/
  sequential : Bool := false
  logLevel : Option String := none
  /-- The settings folder. -/
  config : Option String := none
  deriving DecidableEq, Repr

/-- Why a command line gives no options. -/
inductive OptionsError where
  /-- It asks for help instead. -/
  | help
  /-- An argument is no option and no value. -/
  | unknownArgument
  /-- An option that needs a value has none. -/
  | missingValue
  /-- A value is not of the kind that its option takes. -/
  | wrongValue
  /-- An option is given twice. -/
  | repeated
  /-- An option that takes no value has one. -/
  | needlessValue
  deriving DecidableEq, Repr

namespace Options

/-- Whether the option is given. -/
def has (o : Options) : OptionName → Bool
  | .seed => o.seed.isSome
  | .dimension => o.dimension.isSome
  | .centerX => o.centerX.isSome
  | .centerZ => o.centerZ.isSome
  | .radius => o.radius.isSome
  | .threads => o.threads.isSome
  | .logLevel => o.logLevel.isSome
  | .config => o.config.isSome

/-- Options with the value of one more option. A radius is read as a signed number before its range
is looked at. -/
def withValue? (o : Options) (name : OptionName) (value : String) : Option Options :=
  let cs := value.toList
  match name with
  | .seed =>
    (Text.WholeRange.word64.read? cs).map fun n => { o with seed := some (.ofNat n.toNat) }
  | .dimension => some { o with dimension := some value }
  | .centerX =>
    (Text.WholeRange.int32.read? cs).map fun n => { o with centerX := some (.ofInt n) }
  | .centerZ =>
    (Text.WholeRange.int32.read? cs).map fun n => { o with centerZ := some (.ofInt n) }
  | .radius =>
    ((Text.WholeRange.int64.read? cs).bind Text.WholeRange.word32.check).map fun n =>
      { o with radius := some (.ofNat n.toNat) }
  | .threads =>
    (Text.WholeRange.word64.read? cs).map fun n => { o with threads := some (.ofNat n.toNat) }
  | .logLevel => some { o with logLevel := some value }
  | .config => some { o with config := some value }

/-- Options with one more option. An empty folder name counts as no value. -/
def add (o : Options) (name : OptionName) (value : String) : Except OptionsError Options :=
  if o.has name then .error .repeated
  else if name = .config ∧ value = "" then .error .missingValue
  else
    match o.withValue? name value with
    | some o => .ok o
    | none => .error .wrongValue

end Options

/-! ## Arguments -/

/-- What an argument is on its own. -/
inductive Argument where
  /-- Two dashes: no option follows. -/
  | terminator
  | help
  | sequential
  /-- An option, with its value if that is attached. -/
  | option (name : OptionName) (value : Option String)
  /-- A value attached to an option that takes none. -/
  | needless
  /-- Looks like an option and is none. -/
  | unknown
  /-- Does not look like an option. -/
  | plain
  deriving DecidableEq, Repr

/-- What follows two dashes: a name, and what is attached to it after an equals sign. -/
def Argument.ofLong (cs : List Char) : Argument :=
  let name := String.ofList (cs.takeWhile (· != '='))
  let value := (cs.dropWhile (· != '=')).tail?.map String.ofList
  if name = "help" then if value.isSome then needless else help
  else if name = "sequential" then if value.isSome then needless else sequential
  else
    match OptionName.ofText? name with
    | some name => option name value
    | none => unknown

/-- What an argument is. -/
def Argument.ofText (s : String) : Argument :=
  match s.toList with
  | ['-', '-'] => terminator
  | '-' :: '-' :: cs => ofLong cs
  | '-' :: 'h' :: _ => help
  | '-' :: _ :: _ => unknown
  | _ => plain

namespace Options

/-- The last option so far, and its value if that is there. -/
abbrev Pending := Option (OptionName × Option String)

/-- Options with the last one taken in. -/
def settle (o : Options) : Pending → Except OptionsError Options
  | none => .ok o
  | some (_, none) => .error .missingValue
  | some (name, some value) => o.add name value

/-- The option that the next argument can be a value of. -/
def awaiting : Pending → Option OptionName
  | some (name, none) => some name
  | _ => none

/-- Options from the remaining arguments. A value is looked at when the next option begins, or when
the arguments end; what is wrong with an argument itself comes before that. -/
def scan (o : Options) (last : Pending) : List String → Except OptionsError Options
  | [] => o.settle last
  | arg :: args =>
    match awaiting last, Argument.ofText arg with
    | some name, .plain => o.scan (some (name, some arg)) args
    | some name, a =>
      if name.takesAnything then o.scan (some (name, some arg)) args
      else
        match a with
        | .unknown => .error .unknownArgument
        | .needless => .error .needlessValue
        | .terminator => if args.isEmpty then .error .missingValue else .error .unknownArgument
        | _ => .error .missingValue
    | none, a =>
      match a with
      | .plain | .unknown => .error .unknownArgument
      | .needless => .error .needlessValue
      | .terminator => if args.isEmpty then o.settle last else .error .unknownArgument
      | .help => do
        let _ ← o.settle last
        .error .help
      | .sequential => do
        let o ← o.settle last
        if o.sequential then .error .repeated else scan { o with sequential := true } none args
      | .option name none => do (← o.settle last).scan (some (name, none)) args
      | .option name (some value) => do ((← o.settle last).add name value) >>= (·.scan none args)

/-- Options from a command line without the program's name. -/
def ofArguments (args : List String) : Except OptionsError Options := ({} : Options).scan none args

/-- Settings in which the given options take the place of what was there. -/
def override (o : Options) (s : Settings) : Settings where
  worker :=
    { s.worker with
      threads := o.threads.getD s.worker.threads
      parallelColumns := s.worker.parallelColumns && !o.sequential }
  generation := s.generation
  run :=
    { seed := o.seed.getD s.run.seed
      dimension := o.dimension.getD s.run.dimension
      centerX := o.centerX.getD s.run.centerX
      centerZ := o.centerZ.getD s.run.centerZ
      radius := o.radius.getD s.run.radius }
  debug := { s.debug with logLevel := o.logLevel.getD s.debug.logLevel }

end Options

end Landform
