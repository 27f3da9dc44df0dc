import Landform.Document.Ron.Count

/-! # RON documents

Records are `(name: value, ...)` after an optional name, lists `[value, ...]`, options `Some(value)`
and `None`. Blanks and comments may stand between any two parts. A text may begin with attributes
that enable extensions of the notation. -/

namespace Landform.Ron

open Text (Reader)

/-! ## Extensions -/

/-- The extensions that are enabled. -/
structure Extensions where
  /-- A bare value stands for one that is there. -/
  implicitSome : Bool
  /-- Records of one field may be written as the field alone. -/
  unwrapNewtypes : Bool
  /-- `Some` is directly followed by the fields of its record. -/
  unwrapVariants : Bool
  /-- Every record has its name. -/
  explicitNames : Bool
  deriving DecidableEq, Repr

/-- No extension. -/
def Extensions.none : Extensions := ⟨false, false, false, false⟩

/-- Enables one more extension by its name. -/
def Extensions.enable? (e : Extensions) : String → Option Extensions
  | "implicit_some" => some { e with implicitSome := true }
  | "unwrap_newtypes" => some { e with unwrapNewtypes := true }
  | "unwrap_variant_newtypes" => some { e with unwrapVariants := true }
  | "explicit_struct_names" => some { e with explicitNames := true }
  | _ => Option.none

/-! ## Values without parts -/

/-- Reads one end of a range: a number or a byte. -/
def bound? (cs : List Char) : Option (Document × List Char) :=
  match number? cs with
  | some (n, cs) => some (.number n, cs)
  | none => (byte? cs).map fun (_, cs) => (.other, cs)

/-- Reads the rest of a range after its start. Its end may be left out where it would not belong to
the range. -/
def afterStart? : List Char → Option (Document × List Char)
  | '.' :: '.' :: '=' :: cs => (bound? cs).map fun (_, cs) => (.other, cs)
  | '.' :: '.' :: cs =>
    match bound? cs with
    | some (_, cs) => some (.other, cs)
    | none => some (.other, cs)
  | _ => none

/-- Reads a number, a byte or a range of these. Nothing stands between the parts of a range, and its
start may be left out. -/
def numeric? (cs : List Char) : Option (Document × List Char) :=
  match bound? cs with
  | some (d, cs) => (afterStart? cs).getD (d, cs)
  | none => afterStart? cs

/-- Reads a string or a character. -/
def quoted? (cs : List Char) : Option (Document × List Char) :=
  match text? cs with
  | some (s, cs) => some (.text s, cs)
  | none =>
    match bytes? cs with
    | some (_, cs) => some (.other, cs)
    | none => (character? cs).map fun (_, cs) => (.other, cs)

/-! ## Values with parts -/

/-- A value together with the levels of nesting that it takes up. -/
structure Nested where
  document : Document
  levels : Nat

/-- The levels of a value in parentheses or brackets: one of its own, and for its parts one more
than the deepest of them takes up. -/
def levelsAround (parts : List Nested) : Nat :=
  1 + parts.foldr (fun part n => max (part.levels + 1) n) 0

/-- A value that is an option. Where it does not say so it stands for one that is there. -/
def Nested.asOption (v : Nested) : Nested :=
  match v.document with
  | .absent | .present _ => v
  | d => ⟨.present d, 1 + v.levels⟩

/-- What stands between parentheses. -/
inductive Contents where
  | fields (fields : List (String × Nested))
  | values (values : List Nested)

namespace Contents

/-- A record or a tuple. -/
def nested (name : Option String) : Contents → Nested
  | .fields fs => ⟨.record name (fs.map fun f => (f.1, f.2.document)), levelsAround (fs.map (·.2))⟩
  | .values vs => ⟨.tuple name (vs.map (·.document)), levelsAround vs⟩

/-- The value of an option that is there, if it is the one value between the parentheses. -/
def single? : Contents → Option Nested
  | .values [v] => some ⟨.present v.document, 1 + v.levels⟩
  | _ => none

/-- The value of an option that is there, if the parentheses are its own. One value between them may
still be meant as the option's. A record or a tuple then needs parentheses in addition, and it is
not understood as a record of a known type. -/
def unwrapped? (hasSeveral : Option Bool) : Contents → Option Nested
  | .fields fs =>
    some ⟨.present (.bare (fs.map fun f => (f.1, f.2.document))), 1 + levelsAround (fs.map (·.2))⟩
  | .values [] => some ⟨.present (.bare []), 1⟩
  | .values vs => do
    if ← hasSeveral then
      some ⟨.present (.tuple none (vs.map (·.document))), 1 + levelsAround vs⟩
    else
      let [v] := vs | none
      let d := match v.document with
        | .record .. | .tuple .. => .tuple none [v.document]
        | d => d
      some ⟨.present d, 1 + v.levels⟩

end Contents

/-- Whether the text begins with a field's name and its colon. -/
def startsField (cs : List Char) : Bool :=
  match name? cs with
  | some (_, rest) => ((blanks rest).bind List.head?) == some ':'
  | none => false

/-- Reads the parts of a value. A part is read by the name of the field, which is empty for parts
that are no fields. -/
abbrev PartReader := (name : String) → Reader Nested

/-- Reads a field's name, its colon and its value. -/
def field? (part : PartReader) (cs : List Char) : Option ((String × Nested) × List Char) := do
  let (name, cs) ← name? cs
  let ':' :: cs ← blanks cs | none
  let (v, cs) ← part name cs
  some ((name, v), cs)

/-- Reads a key, its colon and its value, and gives both. -/
def pair? (part : PartReader) (cs : List Char) : Option (List Nested × List Char) := do
  let (k, cs) ← part "" cs
  let ':' :: cs ← blanks cs | none
  let (v, cs) ← part "" cs
  some ([k, v], cs)

/-- Reads what stands between parentheses, after the opening one. -/
def contents? (part : PartReader) (cs : List Char) : Option (Contents × List Char) := do
  let cs ← blanks cs
  if startsField cs then
    let (fs, cs) ← Text.items blanks (field? part) ')' true (cs.length + 1) [] cs
    some (.fields fs, cs)
  else
    let (vs, cs) ← Text.items blanks (part "") ')' true (cs.length + 1) [] cs
    some (.values vs, cs)

/-- Reads what follows `Some`. -/
def option? (e : Extensions) (part : PartReader) (cs : List Char) :
    Option (Nested × List Char) := do
  match ← blanks cs with
  | '(' :: cs =>
    let (c, rest) ← contents? part cs
    let v ← if e.unwrapVariants then c.unwrapped? (hasSeveral? cs) else c.single?
    some (v, rest)
  | cs =>
    if e.implicitSome then
      let (v, cs) ← part "" cs
      some (⟨.present v.document, 1 + v.levels⟩, cs)
    else none

/-- Reads a value that begins with a name: the word alone, or a record or a tuple of that name. -/
def named? (part : PartReader) (name : String) (cs : List Char) : Option (Nested × List Char) :=
  match blanks cs with
  | some ('(' :: cs) => (contents? part cs).map fun (c, cs) => (c.nested (some name), cs)
  | _ => some (⟨.word name, 0⟩, cs)

/-- Reads a value, at most so many values inside each other. The path of a value is made of the
names of the fields around it, from the outermost one on. `options` are the paths of those that are
known to be options. -/
def value (e : Extensions) (options : List (List String)) :
    (fuel : Nat) → (path : List String) → Reader Nested
  | 0, _, _ => none
  | fuel + 1, path, cs =>
    let part : PartReader := fun name cs => do
      let path := path ++ [name]
      let (v, cs) ← value e options fuel path (← blanks cs)
      some (if e.implicitSome && options.contains path then v.asOption else v, cs)
    let flat (r : Document × List Char) : Nested × List Char := (⟨r.1, 0⟩, r.2)
    match cs with
    | '(' :: ')' :: cs => some (⟨.tuple none [], 0⟩, cs)
    | '(' :: cs => (contents? part cs).map fun (c, cs) => (c.nested none, cs)
    | '[' :: cs =>
      (Text.items blanks (part "") ']' true (cs.length + 1) [] cs).map fun (vs, cs) =>
        (⟨.list (vs.map (·.document)), levelsAround vs⟩, cs)
    | '\x7b' :: cs =>
      (Text.items blanks (pair? part) '\x7d' true (cs.length + 1) [] cs).map fun (vs, cs) =>
        (⟨.other, levelsAround vs.flatten⟩, cs)
    | cs =>
      match numeric? cs with
      | some r => some (flat r)
      | none =>
        match name? cs with
        | none => (quoted? cs).map flat
        | some (name, rest) =>
          if isRaw cs then named? part name rest
          else
            match name with
            | "true" => some (⟨.bool true, 0⟩, rest)
            | "false" => some (⟨.bool false, 0⟩, rest)
            | "None" => some (⟨.absent, 0⟩, rest)
            | "Some" => option? e part rest
            | name => named? part name rest

/-! ## Texts -/

/-- Reads the names of extensions after the opening parenthesis, up to the closing one. -/
def extensions? : (fuel : Nat) → Extensions → Reader Extensions
  | 0, _, _ => none
  | fuel + 1, e, cs => do
    let (n, cs) ← name? cs
    let e ← e.enable? n
    let close (cs : List Char) : Option (Extensions × List Char) := do
      let ')' :: cs := cs | none
      some (e, cs)
    match ← blanks cs with
    | ',' :: cs =>
      let cs ← blanks cs
      if (name? cs).isSome then extensions? fuel e cs else close cs
    | cs => close cs

/-- Reads the extensions that an attribute enables, after its keyword. -/
def enabled? (e : Extensions) (cs : List Char) : Option (Extensions × List Char) := do
  let '(' :: cs ← blanks cs | none
  let cs ← blanks cs
  extensions? (cs.length + 1) e cs

/-- Reads the string that an attribute is set to, after its keyword. -/
def setting? (cs : List Char) : Option (String × List Char) := do
  let '=' :: cs ← blanks cs | none
  text? (← blanks cs)

/-- Reads an attribute after its opening bracket. It enables extensions, or names the type or the
schema of the document, which nothing depends on. -/
def attribute? (e : Extensions) (cs : List Char) : Option (Extensions × List Char) := do
  match Text.skipText "enable".toList cs with
  | some cs => enabled? e cs
  | none =>
    let cs ← (Text.skipText "type".toList cs).or (Text.skipText "schema".toList cs)
    let (_, cs) ← setting? cs
    some (e, cs)

/-- Reads the attributes in front of a document. -/
def attributes? : (fuel : Nat) → Extensions → Reader Extensions
  | 0, _, _ => none
  | fuel + 1, e, cs => do
    match ← blanks cs with
    | '#' :: cs =>
      let '!' :: cs ← blanks cs | none
      let '[' :: cs ← blanks cs | none
      let (e, cs) ← attribute? e (← blanks cs)
      let ']' :: cs ← blanks cs | none
      attributes? fuel e cs
    | cs => some (e, cs)

/-- The levels of nesting that a document may take up. -/
def greatestLevels : Nat := 128

/-- Reads a whole text, in which the values at some paths are known to be options: the extensions
it enables, and its one value. Values that are inside each other each take up a level, so no more of
them than levels are ever read. -/
def read? (options : List (List String)) (s : String) : Option (Extensions × Document) := do
  let cs := s.toList
  let (e, cs) ← attributes? (cs.length + 1) .none cs
  let (v, cs) ← value e options (greatestLevels + 1) [] cs
  if v.levels ≤ greatestLevels ∧ (← blanks cs).isEmpty then some (e, v.document) else none

end Landform.Ron
