import Landform.Document.Basic
import Landform.Text.Quoted

/-! # Writing RON documents

Every part of a record or a list stands on a line of its own, four columns further in than the
record or the list, and ends in a comma. -/

namespace Landform.Ron

/-- How far the parts of a value are indented. -/
def indentation : Nat := 4

/-- A line break, and the next line up to the given column. -/
def newline (column : Nat) : String := "\n" ++ String.ofList (List.replicate column ' ')

/-- Parts between two delimiters. The closing one stands at the given column. -/
def block (column : Nat) (opening closing : String) (parts : List String) : String :=
  if parts.isEmpty then opening ++ closing
  else
    opening ++ String.join (parts.map fun p => newline (column + indentation) ++ p ++ ",") ++
      newline column ++ closing

/-- A number: an integer as such, and a double so that it does not read as an integer. -/
def printNumeral (n : Numeral) : String :=
  match n.whole, n.real with
  | some i, _ => toString i
  | none, some q => q.text
  | none, none => (Quantity.ofFloat 0).text

mutual

/-- The text of a document whose closing line is indented to the given column. -/
def printAt (column : Nat) : Document → String
  | .absent => "None"
  | .present d => "Some(" ++ printAt column d ++ ")"
  | .bool b => if b then "true" else "false"
  | .number n => printNumeral n
  | .text s => Text.quote .both s
  | .word w => w
  | .list ds => block column "[" "]" (printItems (column + indentation) ds)
  | .tuple name ds => name.getD "" ++ block column "(" ")" (printItems (column + indentation) ds)
  | .record name fs => name.getD "" ++ block column "(" ")" (printFields (column + indentation) fs)
  | .bare fs => block column "(" ")" (printFields (column + indentation) fs)
  | .other => "()"

/-- The texts of the items of a list. -/
def printItems (column : Nat) : List Document → List String
  | [] => []
  | d :: ds => printAt column d :: printItems column ds

/-- The texts of the fields of a record. -/
def printFields (column : Nat) : List (String × Document) → List String
  | [] => []
  | (name, d) :: fs => (name ++ ": " ++ printAt column d) :: printFields column fs

end

/-- The text of a document. -/
def print (d : Document) : String := printAt 0 d

end Landform.Ron
