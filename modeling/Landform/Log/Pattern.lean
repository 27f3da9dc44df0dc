import Landform.Log.Pattern.Class
import Landform.Text.Alphanumeric

/-! # Patterns

A regular expression that the value of a field has to match. Nothing that a batch reports has a
field with a value to match, so of an expression only that it is well formed is ever asked. Counted
repetitions and sets of characters by their properties need braces, which end a condition on a
field, so there are none here. -/

namespace Landform.Pattern

open Text (Reader)

/-! ## The beginning of groups -/

/-- What stands after an opening parenthesis. -/
inductive GroupStart where
  /-- A group, with flags of its own. -/
  | group (flags : Flags) (name : Option (List Char))
  /-- Flags for the rest of the group around them. -/
  | setFlags (flags : Flags)
  deriving DecidableEq, Repr

/-- May begin the name of a group. -/
def startsName (c : Char) : Bool := c == '_' || Text.isAlphabetic c

/-- May stand in the name of a group. -/
def continuesName (c : Char) : Bool :=
  c == '_' || c == '.' || c == '[' || c == ']' || Text.isAlphanumeric c

/-- Reads the name of a group up to the closing angle bracket. -/
def groupName? (cs : List Char) : Option (List Char × List Char) :=
  let name := cs.takeWhile (· != '>')
  match cs.drop name.length with
  | '>' :: cs =>
    if name.head?.any startsName && name.tail.all continuesName then some (name, cs) else none
  | _ => none

/-- Reads what stands after the opening parenthesis of a group and before its first part. -/
def groupStart? (f : Flags) (cs : List Char) : Option (GroupStart × List Char) :=
  match f.skip cs with
  | '?' :: 'P' :: '<' :: cs | '?' :: '<' :: cs =>
    (groupName? cs).map fun (name, cs) => (.group f (some name), cs)
  | '?' :: cs =>
    let ends (c : Char) : Bool := c == ':' || c == ')'
    let change := cs.takeWhile (!ends ·)
    if Flags.isChange change then
      match cs.drop change.length with
      | ':' :: cs => some (.group (f.change change) none, cs)
      | ')' :: cs => if change.isEmpty then none else some (.setFlags (f.change change), cs)
      | _ => none
    else none
  | cs => some (.group f none, cs)

/-! ## The inside of groups -/

/-- What is to be known of a group. -/
structure Outline where
  /-- The levels inside it. -/
  levels : Nat
  /-- The names of the groups in it. -/
  names : List (List Char)
  deriving DecidableEq, Repr

/-- How far a group has been read. -/
structure GroupProgress where
  /-- The alternatives before the last one. -/
  alternatives : Siblings
  /-- The parts of the last alternative, but for the one that can be repeated. -/
  parts : Siblings
  /-- The levels inside the last part, if it can be repeated. -/
  last : Option Nat
  /-- The names of the groups in it. -/
  names : List (List Char)
  deriving DecidableEq, Repr

namespace GroupProgress

/-- The beginning of a group. -/
def start : GroupProgress := ⟨.none, .none, none, []⟩

/-- All parts of the last alternative. -/
def allParts (p : GroupProgress) : Siblings := p.last.elim p.parts p.parts.add

/-- One more part, with the given levels inside. -/
def add (p : GroupProgress) (levels : Nat) : GroupProgress :=
  { p with parts := p.allParts, last := some levels }

/-- One more group. -/
def addGroup (p : GroupProgress) (name : Option (List Char)) (o : Outline) : GroupProgress :=
  { p.add (o.levels + 1) with names := name.toList ++ o.names ++ p.names }

/-- Flags are a part that cannot be repeated. -/
def addFlags (p : GroupProgress) : GroupProgress :=
  { p with parts := p.allParts.add 0, last := none }

/-- Repeats the last part. -/
def repeatLast? (p : GroupProgress) : Option GroupProgress :=
  p.last.map fun levels => { p with last := some (levels + 1) }

/-- The alternatives that are read. -/
def allAlternatives (p : GroupProgress) : Siblings := p.alternatives.add p.allParts.depth

/-- One more alternative. -/
def addAlternative (p : GroupProgress) : GroupProgress :=
  ⟨p.allAlternatives, .none, none, p.names⟩

/-- What is known at the end of the group. -/
def outline (p : GroupProgress) : Outline := ⟨p.allAlternatives.depth, p.names⟩

end GroupProgress

/-- Drops the question mark that makes a repetition as short as possible. -/
def dropLazy : List Char → List Char
  | '?' :: cs => cs
  | cs => cs

/-- Reads the rest of a group, which ends with a closing parenthesis, or with the text for the
pattern as a whole. Every step takes a character, so the length of the text bounds their number. -/
def groupRest? (isWhole : Bool) : (fuel : Nat) → Flags → GroupProgress → Reader Outline
  | 0, _, _, _ => none
  | fuel + 1, f, p, cs =>
    let next := groupRest? isWhole fuel
    match f.skip cs with
    | [] => if isWhole then some (p.outline, []) else none
    | ')' :: cs => if isWhole then none else some (p.outline, cs)
    | '(' :: cs => do
      match ← groupStart? f cs with
      | (.setFlags f, cs) => next f p.addFlags cs
      | (.group inner name, cs) =>
        let (o, cs) ← groupRest? false fuel inner .start cs
        next f (p.addGroup name o) cs
    | '|' :: cs => next f p.addAlternative cs
    | '*' :: cs | '+' :: cs | '?' :: cs => p.repeatLast?.bind (next f · (dropLazy cs))
    | '\x7b' :: _ => none
    | '[' :: cs => (class? f cs).bind fun (levels, cs) => next f (p.add levels) cs
    | cs => do
      let (e, cs) ← Element.read? f cs
      if e.isSupported f then next f (p.add 0) cs else none

/-- Whether an expression is well formed. No two groups have the same name. -/
def isWellFormed (cs : List Char) : Bool :=
  (groupRest? true (cs.length + 1) .start .start cs).any fun (o, _) =>
    decide (o.levels ≤ maxLevels) && decide o.names.Nodup

end Landform.Pattern
