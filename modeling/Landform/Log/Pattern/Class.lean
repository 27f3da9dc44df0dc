import Landform.Log.Pattern.Element
import Landform.Log.Pattern.Levels

/-! # Classes of characters

A class is written in brackets, as characters, ranges and further classes side by side, which can be
cut with what follows two ampersands, and the like. -/

namespace Landform.Pattern

open Text (Reader)

/-! ## Classes of ASCII characters -/

/-- The names of the classes of ASCII characters. -/
def asciiClasses : List String :=
  ["alnum", "alpha", "ascii", "blank", "cntrl", "digit", "graph", "lower", "print", "punct",
    "space", "upper", "word", "xdigit"]

/-- Reads a class of ASCII characters after its opening bracket. Says whether it is negated. -/
def asciiClass? : Reader Bool
  | ':' :: cs => do
    let (negated, cs) := match cs with
      | '^' :: cs => (true, cs)
      | cs => (false, cs)
    let name := cs.takeWhile (· != ':')
    if asciiClasses.contains (String.ofList name) then
      some (negated, ← Text.skipText ":]".toList (cs.drop name.length))
    else none
  | _ => none

/-- Whether a class can have a class of ASCII characters. -/
def hasAsciiClass (f : Flags) (negated : Bool) : Bool := if f.unicode then !f.caseless else !negated

/-! ## Ranges -/

/-- Reads an element or a range of characters in a class. The ends of a range are in order. A hyphen
in front of another one or at the end of the class makes no range. -/
def range? (f : Flags) (cs : List Char) : Option (List Char) := do
  let (first, cs) ← Element.readMember? f cs
  if !first.isMember f then none
  else
    match f.skip cs with
    | '-' :: rest =>
      if f.peek? rest == some ']' || f.peek? rest == some '-' then some ('-' :: rest)
      else
        let (last, rest) ← Element.readMember? f (f.skip rest)
        match first, last with
        | .character a _, .character b _ => if last.isMember f && a ≤ b then some rest else none
        | _, _ => none
    | cs => some cs

/-! ## Brackets -/

/-- How far a class has been read. -/
structure ClassProgress where
  /-- Nothing but hyphens has been read. -/
  atStart : Bool
  /-- The levels of what stands in front of the last operator. -/
  left : Option Nat
  /-- What stands side by side after it. -/
  right : Siblings
  deriving DecidableEq, Repr

namespace ClassProgress

/-- The beginning of a class. -/
def start : ClassProgress := ⟨true, none, .none⟩

/-- One more part, with the given levels inside. -/
def add (p : ClassProgress) (levels : Nat) : ClassProgress := ⟨false, p.left, p.right.add levels⟩

/-- The levels of what has been read. An operator is one level above both of its sides. -/
def levels (p : ClassProgress) : Nat :=
  match p.left with
  | none => p.right.depth
  | some left => max left p.right.depth + 1

/-- One more operator. -/
def cut (p : ClassProgress) : ClassProgress := ⟨false, some p.levels, .none⟩

end ClassProgress

/-- Drops the caret that negates a class, after its opening bracket. Negated classes hold parts of
characters where bytes are meant. -/
def classStart? (f : Flags) (cs : List Char) : Option (List Char) :=
  match f.skip cs with
  | '^' :: cs => if f.unicode then some cs else none
  | cs => some cs

/-- Reads the rest of a class and gives its levels. Hyphens at the start stand for themselves, and
so does a closing bracket there. Every step takes a character, so the length of the text bounds
their number. -/
def classRest? (f : Flags) : (fuel : Nat) → ClassProgress → Reader Nat
  | 0, _, _ => none
  | fuel + 1, p, cs =>
    let next := classRest? f fuel
    let literal (c : Char) (atStart : Bool) (cs : List Char) :=
      if Element.isMember f (.character c.toNat false) then
        next { p.add 0 with atStart := atStart } cs
      else none
    match f.skip cs, p.atStart with
    | '-' :: cs, true => literal '-' true cs
    | ']' :: cs, atStart =>
      if atStart && p.right.count == 0 then literal ']' false cs else some (p.levels, cs)
    | '[' :: cs, _ =>
      match asciiClass? cs with
      | some (negated, cs) => if hasAsciiClass f negated then next (p.add 0) cs else none
      | none => do
        let (levels, cs) ← classRest? f fuel .start (← classStart? f cs)
        next (p.add (levels + 1)) cs
    | '&' :: '&' :: cs, _ | '-' :: '-' :: cs, _ | '~' :: '~' :: cs, _ => next p.cut cs
    | cs, _ => (range? f cs).bind (next (p.add 0))

/-- Reads a class after its opening bracket and gives its levels. -/
def class? (f : Flags) (cs : List Char) : Option (Nat × List Char) := do
  let (levels, rest) ← classRest? f (cs.length + 1) .start (← classStart? f cs)
  some (levels + 1, rest)

end Landform.Pattern
