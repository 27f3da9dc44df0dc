import Landform.Table.Fault
import Landform.Text.Blank
import Landform.Text.Quoted
import Landform.Text.Whole

/-! # Requests

Which chunk is wanted, of which world, and why a request can be refused. The key of a request and
the parameter table together determine the chunk. -/

namespace Landform

/-! ## Errors -/

/-- Why a chunk is not generated. -/
inductive RequestError where
  /-- No dimension has this code. -/
  | invalidDimension (code : Int32)
  /-- No dimension has this name. -/
  | unknownDimension (name : String)
  /-- Some block of the chunk has a coordinate beyond 32 bits. -/
  | outOfRange (x z : Int32)
  /-- The table fails its check. -/
  | invalidTable (fault : TableFault Float)
  /-- The request was withdrawn. -/
  | cancelled
  /-- The height bounds of the dimension are not in order, so no height lies between them. -/
  | unorderedHeights

/-- The wording of an error. -/
def RequestError.message : RequestError → String
  | invalidDimension code => "invalid dimension code: " ++ toString code.toInt
  | unknownDimension name => "unknown dimension name: " ++ Text.quote .double name
  | outOfRange x z =>
    "chunk (" ++ toString x.toInt ++ ", " ++ toString z.toInt ++
      ") is outside the representable block range"
  | invalidTable fault => "invalid terrain parameters: " ++ fault.message
  | cancelled => "generation cancelled"
  | unorderedHeights => "height bounds are not in order"

/-! ## Dimensions by code and by name -/

namespace Dimension

/-- The dimension with the given code. -/
def ofCode (code : Int32) : Except RequestError Dimension :=
  match ofCode? code with
  | some d => .ok d
  | none => .error (.invalidDimension code)

/-- The dimension with the given name, which is in lower case and may have its namespace in
front. -/
def ofName? (cs : List Char) : Option Dimension :=
  let cs := if "minecraft:".toList.isPrefixOf cs then cs.drop 10 else cs
  if cs = "overworld".toList then some overworld
  else if cs = "nether".toList ∨ cs = "the_nether".toList then some nether
  else if cs = "end".toList ∨ cs = "the_end".toList then some end_
  else none

/-- The dimension that a text names, by its code or its name. Case and surrounding blanks make no
difference. -/
def ofText (s : String) : Except RequestError Dimension :=
  let cs := (Text.trim s.toList).map Char.toLower
  match Text.WholeRange.int32.read? cs with
  | some code => ofCode (Int32.ofInt code)
  | none =>
    match ofName? cs with
    | some d => .ok d
    | none => .error (.unknownDimension s)

end Dimension

/-! ## Keys -/

/-- The identity of one chunk. -/
structure ChunkKey where
  x : Int32
  z : Int32
  seed : UInt64
  dimension : Dimension
  deriving DecidableEq, Repr, Hashable, Inhabited

namespace ChunkKey

/-- Chunk coordinates stop before this magnitude. -/
def limit : Int32 := 134217727

/-- Whether every block of a chunk with this coordinate has a coordinate of 32 bits. -/
def coordinateInRange (c : Int32) : Bool := -limit ≤ c && c < limit

/-- Whether every block of the chunk has coordinates of 32 bits. -/
def inRange (k : ChunkKey) : Bool := coordinateInRange k.x && coordinateInRange k.z

/-- Passes a key that is in range. -/
def check (k : ChunkKey) : Except RequestError Unit :=
  if k.inRange then .ok () else .error (.outOfRange k.x k.z)

/-- The key of a request with a dimension code, if the code is known and the key is in range. -/
def ofRequest (x z : Int32) (seed : UInt64) (code : Int32) : Except RequestError ChunkKey := do
  let dimension ← Dimension.ofCode code
  let key : ChunkKey := ⟨x, z, seed, dimension⟩
  key.check
  pure key

/-- The block coordinates of the corner with the least coordinates. -/
def blockOrigin (k : ChunkKey) : Int × Int := (k.x.toInt * 16, k.z.toInt * 16)

/-- The key as reports show it. -/
def text (k : ChunkKey) : String :=
  "[" ++ toString k.x.toInt ++ ", " ++ toString k.z.toInt ++ "] seed=" ++ toString k.seed.toNat ++
    " " ++ k.dimension.name

end ChunkKey

end Landform
