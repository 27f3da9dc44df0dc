/-! # Materials and markers

What a voxel can be made of, with the codes that a chunk stores, and the four kinds of marks that
are laid over solid voxels. -/

namespace Landform

/-! ## Materials -/

/-- The category of a voxel. -/
inductive Material where
  | air
  | bedrock
  | stone
  | dirt
  | grass
  | sand
  | netherrack
  | soulSand
  | netherBrick
  | endStone
  | cave
  | water
  | coalOre
  | ironOre
  | goldOre
  | diamondOre
  | surfaceStructure
  | midLevelStructure
  | undergroundStructure
  deriving DecidableEq, Repr, Inhabited

namespace Material

/-- All materials in the order of their codes. -/
def all : List Material :=
  [air, bedrock, stone, dirt, grass, sand, netherrack, soulSand, netherBrick, endStone, cave, water,
    coalOre, ironOre, goldOre, diamondOre, surfaceStructure, midLevelStructure,
    undergroundStructure]

/-- The code that a chunk stores. -/
def code : Material → UInt8
  | air => 0
  | bedrock => 1
  | stone => 2
  | dirt => 3
  | grass => 4
  | sand => 5
  | netherrack => 6
  | soulSand => 7
  | netherBrick => 8
  | endStone => 9
  | cave => 10
  | water => 11
  | coalOre => 12
  | ironOre => 13
  | goldOre => 14
  | diamondOre => 15
  | surfaceStructure => 16
  | midLevelStructure => 17
  | undergroundStructure => 18

/-- The material with the given code. -/
def ofCode? (code : UInt8) : Option Material := all[code.toNat]?

/-- The word that stands for the material in a document. -/
def word : Material → String
  | air => "air"
  | bedrock => "bedrock"
  | stone => "stone"
  | dirt => "dirt"
  | grass => "grass"
  | sand => "sand"
  | netherrack => "netherrack"
  | soulSand => "soul_sand"
  | netherBrick => "nether_brick"
  | endStone => "end_stone"
  | cave => "cave"
  | water => "water"
  | coalOre => "coal_ore"
  | ironOre => "iron_ore"
  | goldOre => "gold_ore"
  | diamondOre => "diamond_ore"
  | surfaceStructure => "surface_structure"
  | midLevelStructure => "mid_level_structure"
  | undergroundStructure => "underground_structure"

/-- The material that a word stands for in a document. -/
def ofWord? (w : String) : Option Material := all.find? (·.word == w)

/-- A material that terrain is built of before any marks are laid over it. -/
def isGround : Material → Bool
  | bedrock | stone | dirt | grass | sand | netherrack | soulSand | netherBrick | endStone => true
  | _ => false

/-- A material that only marks produce. -/
def isMark : Material → Bool
  | cave | water | coalOre | ironOre | goldOre | diamondOre
  | surfaceStructure | midLevelStructure | undergroundStructure => true
  | _ => false

/-- Marks are laid over ground, except over bedrock. -/
def takesMarks (m : Material) : Bool := m.isGround && m != bedrock

end Material

/-! ## Marks -/

/-- The kinds of marks. -/
inductive Marker where
  | cave
  | ore
  | water
  | structure_
  deriving DecidableEq, Repr, Inhabited

namespace Marker

/-- All markers in the order in which tables list them. -/
def all : List Marker := [cave, ore, water, structure_]

/-- The name in tables. -/
def word : Marker → String
  | cave => "cave"
  | ore => "ore"
  | water => "water"
  | structure_ => "structure"

/-- The bit of the marker in a set of marks. -/
def bit : Marker → UInt8
  | cave => 1
  | ore => 2
  | water => 4
  | structure_ => 8

end Marker

/-- A set of marks, one bit for each. -/
abbrev Marks := UInt8

/-- Whether a set of marks has a marker. -/
@[inline]
def Marks.has (marks : Marks) (m : Marker) : Bool := marks &&& m.bit != 0

end Landform
