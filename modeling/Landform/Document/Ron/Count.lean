import Landform.Document.Ron.Literal

/-! # One value or several

Whether one value stands between parentheses or several, found out before any of them is read. It is
not the values that are looked at but the commas between brackets, with strings and characters left
out. A byte that is no ASCII character is not seen as a character, so what follows it can be taken
for one. -/

namespace Landform.Ron

open Text (Reader)

/-! ## Strings and characters -/

/-- Whether no quote closes a string after its opening one. Escapes that have no meaning end the
search. -/
def runsOn (hexadecimal? : Reader Char) : (fuel : Nat) → List Char → Bool
  | 0, _ => false
  | fuel + 1, cs =>
    match cs.dropWhile fun c => c != '"' && c != '\\' with
    | '\\' :: rest =>
      if !rest.contains '"' then true
      else
        match rest with
        | '\n' :: rest | '\r' :: '\n' :: rest => runsOn hexadecimal? fuel rest
        | rest => (escape? hexadecimal? rest).any fun (_, rest) => runsOn hexadecimal? fuel rest
    | rest => rest.isEmpty

/-- Whether no quote closes a string in front. -/
def isUnclosed (hexadecimal? : Reader Char) : List Char → Bool
  | '"' :: cs => runsOn hexadecimal? (cs.length + 1) cs
  | 'r' :: cs =>
    let hashes := (cs.takeWhile (· == '#')).length
    match cs.drop hashes with
    | '"' :: cs => (rawString? hashes [] cs).isNone
    | _ => false
  | _ => false

/-- Drops a string in front, if there is one. Fails where it is not closed. -/
def dropString (cs : List Char) : Option (List Char) :=
  match text? cs with
  | some (_, cs) => some cs
  | none => if isUnclosed encodedEscape? cs then none else some cs

/-- Drops a string of bytes in front, if there is one. Fails where it is not closed. -/
def dropBytes (cs : List Char) : Option (List Char) :=
  match bytes? cs, cs with
  | some (_, cs), _ => some cs
  | none, 'b' :: rest => if isUnclosed rawEscape? rest then none else some cs
  | none, _ => some cs

/-- Drops a character in quotes in front, if there is one. -/
def dropCharacter (cs : List Char) : List Char := (character? cs).elim cs (·.2)

/-! ## Commas -/

/-- Whether more than a closing parenthesis follows a comma. -/
def goesOn (cs : List Char) : Option Bool := (blanks cs).map fun cs => cs.head? != some ')'

/-- Whether a comma follows that separates values, with `depth` brackets open inside the
parentheses. Every step takes a character, so the length of the text bounds their number. -/
def hasComma? : (fuel depth : Nat) → List Char → Option Bool
  | 0, _, _ => none
  | fuel + 1, depth, cs => do
    match ← dropBytes (← dropString (dropCharacter (← blanks cs))) with
    | [] => none
    | c :: cs =>
      if c == '(' || c == '[' || c == '\x7b' then hasComma? fuel (depth + 1) cs
      else if c == ')' || c == ']' || c == '\x7d' then
        match depth with
        | 0 => some false
        | depth + 1 => hasComma? fuel depth cs
      else if c == ',' && depth == 0 then goesOn cs
      else hasComma? fuel depth cs

/-- Whether several values stand between parentheses, after the opening one. A word that is the
whole first value is not looked into. -/
def hasSeveral? (cs : List Char) : Option Bool := do
  let cs ← blanks cs
  let look (cs : List Char) : Option Bool := hasComma? (cs.length + 1) 0 cs
  match word? cs with
  | none => look cs
  | some (_, rest) =>
    match ← blanks rest with
    | ',' :: rest => goesOn rest
    | rest => look rest

end Landform.Ron
