/-! # Readers

A reader takes a value off the front of a text and gives back what follows it, or refuses. -/

namespace Landform.Text

/-- Takes a value off the front of a text. -/
abbrev Reader (β : Type) := List Char → Option (β × List Char)

/-- What remains after the given text, if the text starts with it. -/
def skipText : List Char → List Char → Option (List Char)
  | [], cs => some cs
  | p :: ps, c :: cs => if p == c then skipText ps cs else none
  | _ :: _, [] => none

/-- Reads items separated by commas up to the closing character, after the opening one. `blanks`
drops what may stand between items. Every item takes at least one character, so the length of the
text bounds the number of items. -/
def items {β : Type} (blanks : List Char → Option (List Char)) (item : Reader β) (close : Char)
    (trailingComma : Bool) : Nat → List β → Reader (List β)
  | 0, _, _ => none
  | fuel + 1, done, cs => do
    let cs ← blanks cs
    match cs with
    | [] => none
    | c :: rest =>
      if c == close && (done.isEmpty || trailingComma) then some (done.reverse, rest)
      else
        let (x, cs) ← item cs
        match ← blanks cs with
        | [] => none
        | c :: rest =>
          if c == ',' then items blanks item close trailingComma fuel (x :: done) rest
          else if c == close then some ((x :: done).reverse, rest)
          else none

/-- The number that a run of hexadecimal digits stands for. -/
def hexDigits? (cs : List Char) : Option Nat :=
  cs.foldlM (fun n c =>
    if c.isDigit then some (16 * n + (c.toNat - '0'.toNat))
    else if 'a' ≤ c && c ≤ 'f' then some (16 * n + (c.toNat - 'a'.toNat + 10))
    else if 'A' ≤ c && c ≤ 'F' then some (16 * n + (c.toNat - 'A'.toNat + 10))
    else none) 0

/-- The character with the given code point, if there is one. -/
def charAt? (n : Nat) : Option Char := if n.isValidChar then some (Char.ofNat n) else none

end Landform.Text
