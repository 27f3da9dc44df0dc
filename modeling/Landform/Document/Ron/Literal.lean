import Landform.Document.Basic
import Landform.Number.Decimal
import Landform.Text.Reader
import Landform.Text.Word

/-! # The smallest parts of RON texts

Blanks and comments, names, strings and characters, and numbers. -/

namespace Landform.Ron

open Text (Reader)

/-! ## Blanks and comments -/

/-- A blank of the notation. -/
def isBlank (c : Char) : Bool :=
  let n := c.toNat
  n == 0x20 || (9 ≤ n && n ≤ 13) || n == 0x85 || n == 0x200E || n == 0x200F || n == 0x2028 ||
    n == 0x2029

/-- What follows a block comment, of which `open_ + 1` levels are open. -/
def afterComment : (open_ : Nat) → List Char → Option (List Char)
  | 0, '*' :: '/' :: cs => some cs
  | n + 1, '*' :: '/' :: cs => afterComment n cs
  | n, '/' :: '*' :: cs => afterComment (n + 1) cs
  | n, _ :: cs => afterComment n cs
  | _, [] => none

/-- Drops blanks and comments in front. Fails where a comment does not end, and at a slash that
begins none. -/
def skip : (fuel : Nat) → List Char → Option (List Char)
  | 0, cs => some cs
  | fuel + 1, cs =>
    match cs.dropWhile isBlank with
    | '/' :: '/' :: cs => skip fuel ((cs.dropWhile (· != '\n')).drop 1)
    | '/' :: '*' :: cs => (afterComment 0 cs).bind (skip fuel)
    | '/' :: _ => none
    | cs => some cs

/-- Drops all blanks and comments in front. -/
def blanks (cs : List Char) : Option (List Char) := skip (cs.length + 1) cs

/-! ## Names -/

/-- May continue a name that is written raw. -/
def isRawPart (c : Char) : Bool := Text.continuesWord c || c == '.' || c == '+' || c == '-'

/-- Reads a word. A raw word stands after `r#` and may hold more characters. Text that begins a
string is no word. -/
def word? : Reader String
  | 'r' :: '#' :: cs =>
    let n := cs.takeWhile isRawPart
    if n.isEmpty then none else some (String.ofList n, cs.dropWhile isRawPart)
  | 'r' :: '"' :: _ | 'b' :: '"' :: _ | 'b' :: '\'' :: _ | 'b' :: 'r' :: '"' :: _
  | 'b' :: 'r' :: '#' :: _ => none
  | c :: cs =>
    if c == '_' || Text.startsWord c then
      some (String.ofList (c :: cs.takeWhile Text.continuesWord), cs.dropWhile Text.continuesWord)
    else none
  | [] => none

/-- Reads a name, which is a word that does not go on like a raw one. -/
def name? (cs : List Char) : Option (String × List Char) := do
  let (word, rest) ← word? cs
  if rest.head?.any isRawPart then none else some (word, rest)

/-- Whether a text begins with a raw name. Such a name is that of a field, a choice or a record and
never an option or a truth value. -/
def isRaw (cs : List Char) : Bool := "r#".toList.isPrefixOf cs

/-! ## Escapes -/

/-- Reads a byte, after `\x`. -/
def byteEscape? : Reader Nat
  | a :: b :: cs => (Text.hexDigits? [a, b]).map (·, cs)
  | _ => none

/-- The number of bytes that follow the first byte of a character. -/
def followers? (byte : Nat) : Option Nat :=
  if byte < 0x80 then some 0
  else if 0xC2 ≤ byte ∧ byte < 0xE0 then some 1
  else if 0xE0 ≤ byte ∧ byte < 0xF0 then some 2
  else if 0xF0 ≤ byte ∧ byte < 0xF5 then some 3
  else none

/-- Reads `count` bytes, each after a `\x` of its own. -/
def moreBytes : (count : Nat) → Reader (List Nat)
  | 0, cs => some ([], cs)
  | n + 1, '\\' :: 'x' :: cs => do
    let (byte, cs) ← byteEscape? cs
    let (bytes, cs) ← moreBytes n cs
    some (byte :: bytes, cs)
  | _ + 1, _ => none

/-- Reads one character that is given by all its bytes, after the first `\x`. -/
def encodedEscape? (cs : List Char) : Option (Char × List Char) := do
  let (first, cs) ← byteEscape? cs
  let (rest, cs) ← moreBytes (← followers? first) cs
  let s ← String.fromUTF8? (ByteArray.mk ((first :: rest).map Nat.toUInt8).toArray)
  let [c] := s.toList | none
  some (c, cs)

/-- Reads one character that is a byte of its own, after `\x`. -/
def asciiEscape? (cs : List Char) : Option (Char × List Char) := do
  let (byte, cs) ← byteEscape? cs
  if byte < 0x80 then some (Char.ofNat byte, cs) else none

/-- Reads a byte that need not be a character, after `\x`. -/
def rawEscape? (cs : List Char) : Option (Char × List Char) :=
  (byteEscape? cs).map fun (byte, cs) => (Char.ofNat byte, cs)

/-- Reads one character that is given by its code point, after `\u`. -/
def codeEscape? (cs : List Char) : Option (Char × List Char) := do
  let '\x7b' :: cs := cs | none
  let digits := (cs.take 6).takeWhile (· != '\x7d')
  if digits.isEmpty then none
  else
    let n ← Text.hexDigits? digits
    let '\x7d' :: cs := cs.drop digits.length | none
    some (← Text.charAt? n, cs)

/-- Reads what stands after a backslash. What `\x` means depends on where it stands. -/
def escape? (hexadecimal? : Reader Char) : Reader Char
  | 'x' :: cs => hexadecimal? cs
  | 'u' :: cs => codeEscape? cs
  | '"' :: cs => some ('"', cs)
  | '\'' :: cs => some ('\'', cs)
  | '\\' :: cs => some ('\\', cs)
  | 'n' :: cs => some ('\n', cs)
  | 'r' :: cs => some ('\r', cs)
  | 't' :: cs => some ('\t', cs)
  | '0' :: cs => some ('\x00', cs)
  | _ => none

/-! ## Strings and characters -/

/-- A blank that is left out after the end of a continued line. -/
def isIndentation (c : Char) : Bool := c == ' ' || c == '\t' || c == '\n' || c == '\r'

/-- Reads the rest of a string after its opening quote. A backslash at the end of a line continues
the string at the next character that is no indentation. Every step takes a character, so the length
of the text bounds their number. -/
def string? (hexadecimal? : Reader Char) : (fuel : Nat) → List Char → Reader String
  | 0, _, _ => none
  | fuel + 1, done, cs =>
    match cs with
    | '"' :: cs => some (String.ofList done.reverse, cs)
    | '\\' :: '\n' :: cs => string? hexadecimal? fuel done (cs.dropWhile isIndentation)
    | '\\' :: '\r' :: '\n' :: cs => string? hexadecimal? fuel done (cs.dropWhile isIndentation)
    | '\\' :: cs =>
      (escape? hexadecimal? cs).bind fun (c, cs) => string? hexadecimal? fuel (c :: done) cs
    | c :: cs => string? hexadecimal? fuel (c :: done) cs
    | [] => none

/-- Reads the rest of a raw string after its opening quote, up to a quote with the given number of
hashes. -/
def rawString? (hashes : Nat) : List Char → Reader String
  | done, '"' :: cs =>
    match Text.skipText (List.replicate hashes '#') cs with
    | some cs => some (String.ofList done.reverse, cs)
    | none => rawString? hashes ('"' :: done) cs
  | done, c :: cs => rawString? hashes (c :: done) cs
  | _, [] => none

/-- Reads a string of either kind. -/
def anyString? (hexadecimal? : Reader Char) : Reader String
  | '"' :: cs => string? hexadecimal? (cs.length + 1) [] cs
  | 'r' :: cs => do
    let hashes := (cs.takeWhile (· == '#')).length
    let '"' :: cs := cs.drop hashes | none
    rawString? hashes [] cs
  | _ => none

/-- Reads a string. -/
def text? : Reader String := anyString? encodedEscape?

/-- Reads a string of bytes. -/
def bytes? : Reader String
  | 'b' :: cs => anyString? rawEscape? cs
  | _ => none

/-- Reads a character in single quotes. -/
def character? : Reader Char
  | '\'' :: '\\' :: cs => do
    let (c, cs) ← escape? asciiEscape? cs
    let '\'' :: cs := cs | none
    some (c, cs)
  | '\'' :: c :: '\'' :: cs => some (c, cs)
  | _ => none

/-- Reads a byte in single quotes. It is given by an ASCII character or an escape other than that of
a code point. -/
def byte? : Reader Char
  | 'b' :: '\'' :: '\\' :: 'u' :: _ => none
  | 'b' :: '\'' :: '\\' :: cs => do
    let (c, cs) ← escape? rawEscape? cs
    let '\'' :: cs := cs | none
    some (c, cs)
  | 'b' :: '\'' :: c :: '\'' :: cs => if c.toNat < 0x80 then some (c, cs) else none
  | _ => none

/-! ## Numbers -/

/-- The suffixes of integers with their ranges. -/
def wholeKinds : List (String × Text.WholeRange) :=
  [("i8", ⟨-0x80, 0x7F⟩), ("i16", ⟨-0x8000, 0x7FFF⟩), ("i32", .int32), ("i64", .int64),
    ("u8", .word8), ("u16", ⟨0, 0xFFFF⟩), ("u32", .word32), ("u64", .word64)]

/-- The value of a digit in a base, if it is one. -/
def digit? (base : Nat) (c : Char) : Option Nat :=
  (Text.hexDigits? [c]).bind fun n => if n < base then some n else none

/-- The value of digits in a base. Underscores may stand anywhere but in front. -/
def digits? (base : Nat) (cs : List Char) : Option Nat :=
  match cs with
  | [] | '_' :: _ => none
  | cs => (cs.filter (· != '_')).foldlM (fun n c => (digit? base c).map (base * n + ·)) 0

/-- The base of an integer without its sign, and its digits with their suffix. -/
def splitBase : List Char → Nat × List Char
  | '0' :: 'b' :: cs => (2, cs)
  | '0' :: 'o' :: cs => (8, cs)
  | '0' :: 'x' :: cs => (16, cs)
  | cs => (10, cs)

/-- What an integer without a suffix may be. -/
def plainRange : Text.WholeRange := ⟨-0x8000000000000000, 0xFFFFFFFFFFFFFFFF⟩

/-- The value of an integer, and the kind that its suffix names. -/
def whole? (literal : List Char) : Option (Int × Option String) := do
  let (minus, cs) := Text.splitSign literal
  let (base, cs) := splitBase cs
  let suffix := cs.dropWhile fun c => (Text.hexDigits? [c]).isSome || c == '_'
  let n ← digits? base (cs.take (cs.length - suffix.length))
  let n : Int := if minus then -(n : Int) else n
  if suffix.isEmpty then some (← plainRange.check n, none)
  else
    let (kind, range) ← wholeKinds.find? (·.1.toList == suffix)
    some (← range.check n, some kind)

/-- Drops the underscores of a decimal. They may follow digits and the exponent mark. -/
def dropUnderscores : (allowed : Bool) → List Char → Option (List Char)
  | _, [] => some []
  | allowed, '_' :: cs => if allowed then dropUnderscores true cs else none
  | allowed, c :: cs =>
    (dropUnderscores (if c.isDigit || c == 'e' || c == 'E' then true
      else if c == '.' then false else allowed) cs).map (c :: ·)

/-- The value of a floating point number without a suffix. -/
def float? (cs : List Char) : Option Quantity :=
  match String.ofList cs with
  | "inf" | "+inf" => some (.ofFloat (Float.ofBits 0x7FF0000000000000))
  | "-inf" => some (.ofFloat (Float.ofBits 0xFFF0000000000000))
  | "NaN" | "+NaN" => some (.ofFloat (Float.ofBits 0x7FF8000000000000))
  | "-NaN" => some .minusNaN
  | _ => (dropUnderscores false cs).bind fun cs => (Decimal.read? cs).map .ofFloat

/-- The value of a floating point number, and the kind that its suffix names. -/
def real? (literal : List Char) : Option (Quantity × Option String) :=
  match (["f32", "f64"].find? fun kind => kind.toList.isSuffixOf literal) with
  | some kind => (float? (literal.take (literal.length - 3))).map (·, some kind)
  | none => (float? literal).map (·, none)

/-- The value of a number as it is written. -/
def numeral? (literal : List Char) : Option Numeral :=
  match whole? literal, real? literal with
  | none, none => none
  | some (n, kind), none => some ⟨some n, none, kind⟩
  | none, some (x, kind) => some ⟨none, some x, kind⟩
  | some (n, kind), some (x, _) => some ⟨some n, some x, kind⟩

/-- The characters in front that can be those of one number. Two points end it. -/
def literal : List Char → List Char
  | '.' :: '.' :: _ => []
  | c :: cs => if isRawPart c then c :: literal cs else []
  | [] => []

/-- Reads a number. -/
def number? (cs : List Char) : Option (Numeral × List Char) :=
  let l := literal cs
  (numeral? l).map (·, cs.drop l.length)

end Landform.Ron
