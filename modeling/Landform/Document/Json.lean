import Landform.Document.Basic
import Landform.Number.Decimal
import Landform.Text.Reader

/-! # JSON documents

Objects become records without a name and `null` an optional value that is not there. A number
without a point and an exponent is an integer; negative zero is not one. -/

namespace Landform.Json

open Text (Reader)

/-- Drops the blanks in front. -/
def blanks (cs : List Char) : List Char :=
  cs.dropWhile fun c => c == ' ' || c == '\t' || c == '\n' || c == '\r'

/-- Reads the rest of a string after its opening quote. A code point beyond 16 bits is a pair of
escapes, and half a pair is no character. -/
def string? : List Char → List Char → Option (String × List Char)
  | done, '"' :: cs => some (String.ofList done.reverse, cs)
  | done, '\\' :: 'u' :: a :: b :: c :: d :: cs => do
    let n ← Text.hexDigits? [a, b, c, d]
    if 0xD800 ≤ n ∧ n < 0xDC00 then
      match cs with
      | '\\' :: 'u' :: a :: b :: c :: d :: cs =>
        let m ← Text.hexDigits? [a, b, c, d]
        if 0xDC00 ≤ m ∧ m < 0xE000 then
          string? (Char.ofNat (0x10000 + (n - 0xD800) * 0x400 + (m - 0xDC00)) :: done) cs
        else none
      | _ => none
    else
      let c ← Text.charAt? n
      string? (c :: done) cs
  | done, '\\' :: c :: cs =>
    match c with
    | '"' | '\\' | '/' => string? (c :: done) cs
    | 'b' => string? ('\x08' :: done) cs
    | 'f' => string? ('\x0c' :: done) cs
    | 'n' => string? ('\n' :: done) cs
    | 'r' => string? ('\r' :: done) cs
    | 't' => string? ('\t' :: done) cs
    | _ => none
  | done, c :: cs => if c.toNat < 0x20 then none else string? (c :: done) cs
  | _, [] => none

/-- The integers that are read as such; others are only doubles. -/
def wholeRange : Text.WholeRange := ⟨-0x8000000000000000, 0xFFFFFFFFFFFFFFFF⟩

/-- The value of a number as it is written. -/
def numeral? (literal : List Char) : Option Numeral := do
  let digits := match literal with
    | '-' :: ds => ds
    | ds => ds
  -- a leading zero stands alone
  match digits with
  | '0' :: c :: _ => if c.isDigit then none else pure ()
  | c :: _ => if c.isDigit then pure () else none
  | [] => none
  -- digits stand on both sides of a point
  match (digits.dropWhile Char.isDigit) with
  | '.' :: c :: _ => if c.isDigit then pure () else none
  | ['.'] => none
  | _ => pure ()
  let real ← Decimal.read? literal
  let whole := if digits.all Char.isDigit then wholeRange.read? literal else none
  let isMinusZero := whole == some 0 && literal.head? == some '-'
  if real.isInf then none
  else some ⟨if isMinusZero then none else whole, some (.ofFloat real), none⟩

/-- The members of an object. Of several members with one name the last one counts. -/
def lastOfEach (members : List (String × Document)) : List (String × Document) :=
  members.foldr (fun m kept => if kept.any (·.1 == m.1) then kept else m :: kept) []

/-- May stand in a number. -/
def isNumberPart (c : Char) : Bool :=
  c.isDigit || c == '+' || c == '-' || c == '.' || c == 'e' || c == 'E'

/-- Reads a value without parts. -/
def scalar? (cs : List Char) : Option (Document × List Char) :=
  let keyword (word : String) (d : Document) : Option (Document × List Char) :=
    (Text.skipText word.toList cs).map (d, ·)
  match cs with
  | '"' :: rest => (string? [] rest).map fun (s, cs) => (.text s, cs)
  | 't' :: _ => keyword "true" (.bool true)
  | 'f' :: _ => keyword "false" (.bool false)
  | 'n' :: _ => keyword "null" .absent
  | _ => do
    let n ← numeral? (cs.takeWhile isNumberPart)
    some (.number n, cs.dropWhile isNumberPart)

/-- Reads a value in which lists and objects are nested at most to the given depth. -/
def value : (depth : Nat) → Reader Document
  | 0, cs => scalar? (blanks cs)
  | depth + 1, cs => do
    match blanks cs with
    | '[' :: rest =>
      let (xs, cs) ← Text.items (some ∘ blanks) (value depth) ']' false (rest.length + 1) [] rest
      some (.list xs, cs)
    | '\x7b' :: rest =>
      let member : Reader (String × Document) := fun cs => do
        let '"' :: cs := cs | none
        let (name, cs) ← string? [] cs
        let ':' :: cs := blanks cs | none
        let (v, cs) ← value depth cs
        some ((name, v), cs)
      let (xs, cs) ← Text.items (some ∘ blanks) member '\x7d' false (rest.length + 1) [] rest
      some (.record none (lastOfEach xs), cs)
    | cs => scalar? cs

/-- How deep lists and objects may be nested. -/
def greatestDepth : Nat := 127

/-- Reads a whole text as one value. -/
def read? (s : String) : Option Document := do
  let (d, rest) ← value greatestDepth s.toList
  if (blanks rest).isEmpty then some d else none

end Landform.Json
