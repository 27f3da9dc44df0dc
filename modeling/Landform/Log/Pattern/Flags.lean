import Landform.Text.Blank

/-! # Flags of patterns

How a part of a pattern is read. A pattern sets flags itself, for the rest of a group or for a group
of their own. -/

namespace Landform.Pattern

/-- How a part of a pattern is read. The other flags make no difference to whether a pattern is well
formed. -/
structure Flags where
  /-- Upper and lower case are the same. -/
  caseless : Bool
  /-- The pattern is about characters, and not about the bytes that they are made of. -/
  unicode : Bool
  /-- Blanks and comments are not part of the pattern. -/
  spaced : Bool
  deriving DecidableEq, Repr

namespace Flags

/-- The flags at the beginning of a pattern. -/
def start : Flags := ⟨false, true, false⟩

/-- The letters of all flags. -/
def letters : List Char := "imsUuRx".toList

/-- Whether a text changes flags. It has letters that set flags and, after a hyphen, letters that
clear flags, each one once. -/
def isChange (cs : List Char) : Bool :=
  cs.all (fun c => c == '-' || letters.contains c) && decide cs.Nodup && cs.getLast? != some '-'

/-- The flags after a change. -/
def change (f : Flags) (cs : List Char) : Flags :=
  let set := cs.takeWhile (· != '-')
  let cleared := cs.drop set.length
  let now (letter : Char) (before : Bool) : Bool :=
    (before || set.contains letter) && !cleared.contains letter
  ⟨now 'i' f.caseless, now 'u' f.unicode, now 'x' f.spaced⟩

/-- Drops blanks and comments. A comment goes from a number sign to the end of its line. -/
def dropSpace : (inComment : Bool) → List Char → List Char
  | _, [] => []
  | true, c :: cs => dropSpace (c != '\n') cs
  | false, c :: cs =>
    if c == '#' then dropSpace true cs
    else if Text.isBlank c then dropSpace false cs
    else c :: cs

/-- Drops what is not part of the pattern. -/
def skip (f : Flags) (cs : List Char) : List Char := if f.spaced then dropSpace false cs else cs

/-- The first character that is part of the pattern. A comment in front of it is not seen as one:
what counts is the first character in it, or the blank in front of it if there is none. -/
def peek? (f : Flags) (cs : List Char) : Option Char :=
  if f.spaced then
    let next := match cs.dropWhile Text.isBlank with
      | '#' :: rest => rest.dropWhile Text.isBlank
      | rest => rest
    next.head?.or cs.head?
  else cs.head?

end Flags

end Landform.Pattern
