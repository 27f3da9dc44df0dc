import Landform.Document.Basic
import Landform.Document.Ron
import Landform.Text.Whole

/-! # Reading typed values

How the parts of a document become values of a known type. A form is what the notation of a
document lays down: how options, names and records may be written in it. -/

namespace Landform

/-- The conventions of a notation. -/
structure Form where
  /-- A bare value stands for an option that is there. -/
  bareOptions : Bool
  /-- Names of a fixed set of choices are quoted, or stand alone in a record without a value. -/
  quotedWords : Bool
  /-- A list stands for a record, field by field. -/
  listRecords : Bool
  /-- Every record has its name. -/
  namedRecords : Bool
  deriving DecidableEq, Repr

namespace Form

/-- The conventions of JSON. -/
def json : Form := ⟨true, true, true, false⟩

/-- The conventions of RON with some extensions. A bare value that stands for an option is one
already when it has been read. -/
def ron (e : Ron.Extensions) : Form := ⟨false, false, false, e.explicitNames⟩

/-! ## Plain values -/

/-- A truth value. -/
def bool? : Document → Option Bool
  | .bool b => some b
  | _ => none

/-- An integer of a range. A suffix has to name its kind. -/
def whole? (kind : String) (range : Text.WholeRange) : Document → Option Int
  | .number n =>
    if n.kind = none ∨ n.kind = some kind then n.whole.bind range.check else none
  | _ => none

/-- An unsigned integer of 32 bits. -/
def word32? (d : Document) : Option UInt32 :=
  (whole? "u32" .word32 d).map fun n => UInt32.ofNat n.toNat

/-- An unsigned integer of 64 bits. -/
def word64? (d : Document) : Option UInt64 :=
  (whole? "u64" .word64 d).map fun n => UInt64.ofNat n.toNat

/-- A signed integer of 32 bits. -/
def int32? (d : Document) : Option Int32 := (whole? "i32" .int32 d).map Int32.ofInt

/-- A double. A suffix has to name doubles. -/
def real? : Document → Option Quantity
  | .number n => if n.kind = none ∨ n.kind = some "f64" then n.real else none
  | _ => none

/-- Quoted text. -/
def text? : Document → Option String
  | .text s => some s
  | _ => none

/-! ## Values with parts -/

variable {β : Type} (f : Form)

/-- One of a fixed set of choices, by its word. -/
def choice? (ofWord? : String → Option β) : Document → Option β
  | .word w => if f.quotedWords then none else ofWord? w
  | .text w => if f.quotedWords then ofWord? w else none
  | .record none [(w, .absent)] => if f.quotedWords then ofWord? w else none
  | _ => none

/-- An option. -/
def option? (read? : Document → Option β) : Document → Option (Option β)
  | .absent => some none
  | .present d => (read? d).map some
  | d => if f.bareOptions then (read? d).map some else none

/-- All items of a list. -/
def list? (read? : Document → Option β) : Document → Option (List β)
  | .list ds => ds.mapM read?
  | _ => none

/-- The fields of a record, of which those that are not known are ignored. -/
structure Fields where
  entries : List (String × Document)

/-- Fields of which none of the known ones is there twice. -/
def uniqueFields? (known : List String) (entries : List (String × Document)) : Option Fields :=
  if known.any fun k => 1 < entries.countP (·.1 == k) then none else some ⟨entries⟩

/-- Whether a record that is given this name, or none, can be the one of the right name. -/
def named (name : String) (given : Option String) : Bool :=
  given == some name || (given.isNone && !f.namedRecords)

/-- The fields of the record with the given name and known fields. -/
def record? (name : String) (known : List String) : Document → Option Fields
  | .record given entries => if f.named name given then uniqueFields? known entries else none
  | .bare entries => uniqueFields? known entries
  | .tuple given [] => if f.listRecords = false ∧ f.named name given then some ⟨[]⟩ else none
  | .list items =>
    if f.listRecords ∧ items.length ≤ known.length then some ⟨known.zip items⟩ else none
  | _ => none

namespace Fields

/-- The document of a field. -/
def get? (r : Fields) (name : String) : Option Document :=
  (r.entries.find? (·.1 == name)).map (·.2)

/-- The value of a field that has to be there. -/
def need? (r : Fields) (name : String) (read? : Document → Option β) : Option β :=
  (r.get? name).bind read?

/-- The value of a field, or the default if the field is not there. -/
def getD? (r : Fields) (name : String) (default : β) (read? : Document → Option β) : Option β :=
  match r.get? name with
  | some d => read? d
  | none => some default

end Fields

end Form

end Landform
