import Landform.Log.Pattern.Flags
import Landform.Text.Reader

/-! # Elements of patterns

The smallest parts of a pattern: characters, sets of characters that have a letter, and places.

There are no tables of letter case and of sets for all characters. So only bytes can be looked for
in either case, and only the sets of ASCII characters can be meant, in a pattern about bytes. Such a
pattern in turn must not match a part of a character. -/

namespace Landform.Pattern

open Text (Reader)

/-- A part of a pattern without parts. -/
inductive Element where
  /-- One character, by its code point. It can be written as the digits of one byte. -/
  | character (code : Nat) (asByte : Bool)
  /-- Any character. -/
  | any
  /-- A digit, a blank or a part of a word, or anything else. -/
  | set (negated : Bool)
  /-- The beginning or the end of a line or of the text. -/
  | edge
  /-- The beginning or the end of a word, or any other place. -/
  | wordEdge
  deriving DecidableEq, Repr

namespace Element

/-! ## Meaning -/

/-- Whether a pattern can have the element. -/
def isSupported (f : Flags) : Element → Bool
  | character code asByte => if f.unicode then !f.caseless else !asByte || code < 0x80
  | any => f.unicode
  | set negated => !f.unicode && !negated
  | edge => true
  | wordEdge => !f.unicode

/-- Whether a class can have the element. -/
def isMember (f : Flags) : Element → Bool
  | character code _ => if f.unicode then !f.caseless else code < 0x80
  | set negated => !f.unicode && !negated
  | _ => false

/-! ## Reading -/

/-- Takes so many characters off a pattern. -/
def takeParts? (f : Flags) : Nat → Reader (List Char)
  | 0, cs => some ([], cs)
  | n + 1, cs =>
    match f.skip cs with
    | [] => none
    | c :: cs => (takeParts? f n cs).map fun (taken, cs) => (c :: taken, cs)

/-- Reads the given number of hexadecimal digits as the code point of a character. -/
def ofDigits? (f : Flags) (width : Nat) (cs : List Char) : Option (Element × List Char) := do
  let (digits, cs) ← takeParts? f width cs
  let c ← Text.charAt? (← Text.hexDigits? digits)
  some (character c.toNat (width == 2), cs)

/-- Reads what stands after a backslash. Any ASCII character but letters, digits and angle brackets
stands for itself. -/
def ofEscape? (f : Flags) : Reader Element
  | 'x' :: cs => ofDigits? f 2 cs
  | 'u' :: cs => ofDigits? f 4 cs
  | 'U' :: cs => ofDigits? f 8 cs
  | 'a' :: cs => some (character 7 false, cs)
  | 't' :: cs => some (character 9 false, cs)
  | 'n' :: cs => some (character 10 false, cs)
  | 'v' :: cs => some (character 11 false, cs)
  | 'f' :: cs => some (character 12 false, cs)
  | 'r' :: cs => some (character 13 false, cs)
  | 'A' :: cs | 'z' :: cs => some (edge, cs)
  | 'b' :: cs | 'B' :: cs | '<' :: cs | '>' :: cs => some (wordEdge, cs)
  | 'd' :: cs | 's' :: cs | 'w' :: cs => some (set false, cs)
  | 'D' :: cs | 'S' :: cs | 'W' :: cs => some (set true, cs)
  | c :: cs =>
    if c.toNat < 0x80 && !c.isAlphanum then some (character c.toNat false, cs) else none
  | [] => none

/-- Reads an element. -/
def read? (f : Flags) : Reader Element
  | '\\' :: cs => ofEscape? f cs
  | '.' :: cs => some (any, cs)
  | '^' :: cs | '$' :: cs => some (edge, cs)
  | c :: cs => some (character c.toNat false, cs)
  | [] => none

/-- Reads an element of a class. -/
def readMember? (f : Flags) : Reader Element
  | '\\' :: cs => ofEscape? f cs
  | c :: cs => some (character c.toNat false, cs)
  | [] => none

end Element

end Landform.Pattern
