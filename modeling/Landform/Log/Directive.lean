import Landform.Batch.Event
import Landform.Log.Pattern
import Landform.Number.Decimal
import Landform.Text.Alphanumeric
import Landform.Text.Blank
import Landform.Text.Whole

/-! # Directives

A directive of a log filter says how much is shown of some events. It is a level, for all events, or
`target[span{field=value}]=level` with most parts left out: for the events of the sources whose
names start with the target, inside a span of the name, with a field of the name and the value. -/

namespace Landform

/-! ## Levels -/

/-- The verbosity that a level stands for, by its name in any case or by its number. -/
def Level.verbosity? (cs : List Char) : Option Nat :=
  match Text.WholeRange.word64.read? cs with
  | some n => if n ≤ 5 then some n.toNat else none
  | none =>
    let word := String.ofList (cs.map Char.toUpper)
    if word = "OFF" then some 0
    else (Level.all.find? (·.title == word)).map Level.verbosity

/-! ## Conditions on fields -/

/-- A condition on the events or spans that a directive is about. -/
structure FieldCondition where
  /-- They have a field of this name. -/
  name : List Char
  /-- The field has a certain value or matches a pattern. -/
  hasValue : Bool
  deriving DecidableEq, Repr

namespace FieldCondition

/-- Whether a text is the value of a field: a number or a pattern. Only numbers with a plus sign are
no patterns. -/
def isValue (cs : List Char) : Bool :=
  let word := String.ofList ((Text.splitSign cs).2.map Char.toLower)
  (Decimal.read? cs).isSome || ["inf", "infinity", "nan"].contains word || Pattern.isWellFormed cs

/-- The condition that a text says: a name, or a name and a value. -/
def ofText? (cs : List Char) : Option FieldCondition :=
  let name := cs.takeWhile (· != '=')
  match cs.drop name.length with
  | [] => if name.isEmpty then none else some ⟨name, false⟩
  | _ :: value => if isValue (value.takeWhile (· != '=')) then some ⟨name, true⟩ else none

end FieldCondition

/-! ## Directives -/

/-- One part of a filter. -/
structure Directive where
  /-- The sources whose names start with it are meant. -/
  target : List Char
  /-- Only what is inside a span of a certain name is meant. -/
  inSpan : Bool
  field : Option FieldCondition
  /-- How far down the events are shown. -/
  verbosity : Nat
  deriving DecidableEq, Repr

/-- Why a text is no directive. -/
inductive DirectiveError where
  /-- It makes no sense. -/
  | malformed
  /-- A part of it would end inside a character. -/
  | torn
  deriving DecidableEq, Repr

namespace Directive

/-- Shows everything. -/
def everything : Directive := ⟨[], false, none, Level.trace.verbosity⟩

/-- Shows the events of all sources down to a level. -/
def ofLevel (level : Level) : Directive := { everything with verbosity := level.verbosity }

/-! ### Cutting out parts -/

/-- A text without so many bytes in front, if these are whole characters. -/
def dropBytes? : Nat → List Char → Option (List Char)
  | 0, cs => some cs
  | n + 1, c :: cs => if c.utf8Size ≤ n + 1 then dropBytes? (n + 1 - c.utf8Size) cs else none
  | _ + 1, [] => none

/-- So many bytes of a text, if these are whole characters. -/
def takeBytes? : Nat → List Char → Option (List Char)
  | 0, _ => some []
  | n + 1, c :: cs =>
    if c.utf8Size ≤ n + 1 then (takeBytes? (n + 1 - c.utf8Size) cs).map (c :: ·) else none
  | _ + 1, [] => none

/-- The part of a text from one byte on. -/
def fromByte (cs : List Char) (start : Nat) : Except DirectiveError (List Char) :=
  (dropBytes? start cs).elim (.error .torn) .ok

/-- The part of a text between two bytes. -/
def betweenBytes (cs : List Char) (start stop : Nat) : Except DirectiveError (List Char) := do
  (takeBytes? (stop - start) (← fromByte cs start)).elim (.error .torn) .ok

/-! ### Reading -/

/-- The part of a directive that is being read. Parts are known by the bytes at which they start. -/
inductive Part where
  | start
  /-- A level or a target. -/
  | word
  | span (start : Nat)
  | field (start : Nat)
  /-- Between the closing brace and the closing bracket. -/
  | afterField
  /-- Behind the closing bracket. -/
  | afterSpan
  | level (start : Nat)
  deriving DecidableEq, Repr

/-- May stand at the start of a target. -/
def startsTarget (c : Char) : Bool := Text.isAlphanumeric c || c == '-' || c == ':' || c == '_'

/-- Reads the character at the given byte. The parts are cut out of the whole text. -/
def step (whole : List Char) (index : Nat) (c : Char) (d : Directive) :
    Part → Except DirectiveError (Directive × Part)
  | .start =>
    if c = '[' then .ok (d, .span (index + 1))
    else if startsTarget c then .ok (d, .word)
    else .error .malformed
  | .word => do
    if c = '=' ∨ c = '[' then
      let next := if c = '=' then .level (index + 1) else .span (index + 1)
      return ({ d with target := ← betweenBytes whole 0 index }, next)
    else return (d, .word)
  | .span start => do
    if c = ']' then
      let _ ← betweenBytes whole start index
      return ({ d with inSpan := true }, .afterSpan)
    else if c = '\x7b' then
      let name ← betweenBytes whole start index
      return ({ d with inSpan := !name.isEmpty }, .field (index + 1))
    else return (d, .span start)
  | .field start => do
    if c = '\x7d' then
      match FieldCondition.ofText? (← betweenBytes whole start index) with
      | some f => return ({ d with field := some f }, .afterField)
      | none => throw .malformed
    else return (d, .field start)
  | .afterField => if c = ']' then .ok (d, .afterSpan) else .error .malformed
  | .afterSpan => if c = '=' then .ok (d, .level (index + 1)) else .error .malformed
  | .level start => .ok (d, .level start)

/-- Reads the characters from a byte on. -/
def steps (whole : List Char) : (index : Nat) → List Char → Directive → Part →
    Except DirectiveError (Directive × Part)
  | _, [], d, part => .ok (d, part)
  | index, c :: cs, d, part => do
    let (d, part) ← step whole index c d part
    steps whole (index + c.utf8Size) cs d part

/-- The directive at the end of the text. Without a level it shows everything. A word is a level if
it can be one. -/
def finish (whole : List Char) (d : Directive) : Part → Except DirectiveError Directive
  | .word =>
    match Level.verbosity? whole with
    | some v => .ok { d with verbosity := v }
    | none => .ok { d with target := whole }
  | .level start => do
    match ← fromByte whole start with
    | [] => return d
    | level =>
      match Level.verbosity? level with
      | some v => return { d with verbosity := v }
      | none => throw .malformed
  | .afterSpan => .ok d
  | _ => .error .malformed

/-- The directive that a text says. Blanks around it are not read, but the parts are cut out of the
text with its blanks, as if these stood at its end. -/
def ofText (cs : List Char) : Except DirectiveError Directive := do
  let (d, part) ← steps cs 0 (Text.trim cs) everything .start
  finish cs d part

/-! ### Meaning -/

/-- Whether events can be shown for the directive alone, whatever span they are in. -/
def isStatic (d : Directive) : Bool := !d.inSpan && !d.field.any (·.hasValue)

/-- Whether the directive decides about events of a source that have fields of these names. -/
def applies (d : Directive) (source : List Char) (fields : List (List Char)) : Bool :=
  d.isStatic && d.target.isPrefixOf source && d.field.all fun f => fields.contains f.name

/-- Whether a directive is at least as specific as another: it has a longer target, or one of the
same length and no fewer conditions. -/
def isAsSpecificAs (a b : Directive) : Bool :=
  let conditions (d : Directive) : Nat := d.field.elim 0 fun _ => 1
  if a.target.length = b.target.length then conditions b ≤ conditions a
  else b.target.length < a.target.length

end Directive

end Landform
