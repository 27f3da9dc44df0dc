import Landform.Number.Quantity

/-! # Documents

A document is what a settings text says before anyone asks what it is about: records with named
fields, lists, numbers, text. The same type holds what was read from text and what is about to be
written. -/

namespace Landform

/-- A number in a document. -/
structure Numeral where
  /-- Its value as an integer, if it is written as one. -/
  whole : Option Int
  /-- Its value as a double, if it is written in a form that doubles have. -/
  real : Option Quantity
  /-- The kind of number that a suffix demands. -/
  kind : Option String

/-- Structured data without a schema. -/
inductive Document where
  /-- An optional value that is not there. -/
  | absent
  /-- An optional value that is there. -/
  | present (value : Document)
  | bool (value : Bool)
  | number (value : Numeral)
  /-- Quoted text. -/
  | text (value : String)
  /-- A bare name. -/
  | word (name : String)
  | list (items : List Document)
  /-- Values in parentheses, after an optional name. -/
  | tuple (name : Option String) (items : List Document)
  /-- Named fields, after an optional name. -/
  | record (name : Option String) (fields : List (String × Document))
  /-- Named fields that stand in an optional value without parentheses and a name of their own. -/
  | bare (fields : List (String × Document))
  /-- Something that no settings are made of. -/
  | other

namespace Document

/-- An integer, which also stands for a double. -/
def integer (n : Int) : Document := .number ⟨some n, some (.ofFloat (Float.ofInt n)), none⟩

/-- A double. -/
def real (q : Quantity) : Document := .number ⟨none, some q, none⟩

/-- An optional value. -/
def ofOption {α : Type} (write : α → Document) : Option α → Document
  | none => .absent
  | some a => .present (write a)

/-- The field of a record with the given name; the last one, if there are several. -/
def field? (name : String) : Document → Option Document
  | .record _ fields => (fields.reverse.find? (·.1 == name)).map (·.2)
  | _ => none

end Document

end Landform
