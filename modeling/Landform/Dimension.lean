/-! # Dimensions

The three worlds that terrain is made for. Their codes and names are what callers and files use. -/

namespace Landform

/-- A world. -/
inductive Dimension where
  | overworld
  | nether
  | end_
  deriving DecidableEq, Repr, Hashable, Inhabited

namespace Dimension

/-- All dimensions in the order of their codes. -/
def all : List Dimension := [overworld, nether, end_]

/-- The numeric code. -/
def code : Dimension → UInt8
  | overworld => 0
  | nether => 1
  | end_ => 2

/-- The dimension with the given code. -/
def ofCode? (code : Int32) : Option Dimension :=
  if code = 0 then some overworld
  else if code = 1 then some nether
  else if code = 2 then some end_
  else none

/-- The full name, with its namespace. -/
def name : Dimension → String
  | overworld => "minecraft:overworld"
  | nether => "minecraft:the_nether"
  | end_ => "minecraft:the_end"

/-- The one word that stands for the dimension in a document. -/
def word : Dimension → String
  | overworld => "overworld"
  | nether => "nether"
  | end_ => "end"

/-- The dimension that a word stands for in a document. -/
def ofWord? (w : String) : Option Dimension := all.find? (·.word == w)

end Dimension

end Landform
