/-! # Levels of patterns

How deeply the parts of a pattern stand in each other. -/

namespace Landform.Pattern

/-- Parts of a pattern that stand side by side. -/
structure Siblings where
  count : Nat
  /-- The levels inside the deepest one. -/
  levels : Nat
  deriving DecidableEq, Repr

namespace Siblings

/-- No part at all. -/
def none : Siblings := ⟨0, 0⟩

/-- One more part, with the given levels inside. -/
def add (s : Siblings) (levels : Nat) : Siblings := ⟨s.count + 1, max s.levels levels⟩

/-- The levels of all of them together. Several parts are one level below what they make up, and a
single part is all of it. -/
def depth (s : Siblings) : Nat := if s.count ≤ 1 then s.levels else s.levels + 1

end Siblings

/-- The highest number of levels in a pattern. -/
def maxLevels : Nat := 250

end Landform.Pattern
