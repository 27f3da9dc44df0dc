/-! # Biomes

The climate zones of columns. -/

namespace Landform

/-- The climate zone of a column. -/
inductive Biome where
  /-- Neither warm nor cold nor wet. -/
  | plain
  /-- Warm and wet. -/
  | forest
  /-- Warm and dry. -/
  | plains
  /-- Cold. -/
  | taiga
  /-- Wet without being warm. -/
  | swamp
  deriving DecidableEq, Repr, Inhabited

namespace Biome

/-- All biomes in the order of their codes. -/
def all : List Biome := [plain, forest, plains, taiga, swamp]

/-- The code that a chunk stores. -/
def code : Biome → UInt8
  | plain => 0
  | forest => 1
  | plains => 2
  | taiga => 3
  | swamp => 4

/-- The biome with the given code. -/
def ofCode? (code : UInt8) : Option Biome := all[code.toNat]?

/-- The word that stands for the biome in a document. -/
def word : Biome → String
  | plain => "default"
  | forest => "forest"
  | plains => "plains"
  | taiga => "taiga"
  | swamp => "swamp"

/-- The name in reports. -/
def title : Biome → String
  | plain => "Default"
  | forest => "Forest"
  | plains => "Plains"
  | taiga => "Taiga"
  | swamp => "Swamp"

/-- The biome that a word stands for in a document. -/
def ofWord? (w : String) : Option Biome := all.find? (·.word == w)

end Biome

end Landform
