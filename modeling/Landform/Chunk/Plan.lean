import Landform.Terrain.Layout

/-! # Plans

Every stage of a generation is made of units that do not depend on each other: the columns of a
chunk, or its layers. A plan says in which order the units of each stage run. -/

namespace Landform

open Layout

/-- How the `n` units of a stage run, each of them once. -/
inductive UnitOrder (n : Nat) where
  /-- One after the other, upwards. -/
  | forward
  /-- One after the other, downwards. -/
  | reverse
  /-- At the same time, in the order in which they come. -/
  | free (units : List (Fin n)) (complete : units.Perm (List.finRange n))

namespace UnitOrder

variable {n : Nat}

/-- The units in the order in which they run. -/
def units : UnitOrder n → List (Fin n)
  | forward => List.finRange n
  | reverse => (List.finRange n).reverse
  | free units _ => units

theorem complete (order : UnitOrder n) : order.units.Perm (List.finRange n) := by
  cases order with
  | forward => exact .refl _
  | reverse => exact List.reverse_perm _
  | free _ complete => exact complete

end UnitOrder

/-- The order of the units in every stage. -/
structure Plan where
  columns : UnitOrder area
  density : UnitOrder height
  ground : UnitOrder height
  marks : UnitOrder height

/-- Upwards in every stage. -/
def Plan.forward : Plan := ⟨.forward, .forward, .forward, .forward⟩

/-- Downwards in every stage. -/
def Plan.reverse : Plan := ⟨.reverse, .reverse, .reverse, .reverse⟩

/-- At the same time in every stage, where the units happen to come upwards. -/
def Plan.free : Plan :=
  ⟨.free _ (.refl _), .free _ (.refl _), .free _ (.refl _), .free _ (.refl _)⟩

/-- What a caller may ask of the order. -/
inductive Schedule where
  /-- Any order: units may run at the same time and finish as they like. -/
  | parallel
  | forward
  | reverse
  deriving DecidableEq, Repr, Inhabited

namespace Schedule

/-- The plans that a schedule allows. -/
def Allows : Schedule → Plan → Prop
  | parallel, _ => True
  | forward, p => p = .forward
  | reverse, p => p = .reverse

/-- A plan that the schedule allows. -/
def plan : Schedule → Plan
  | parallel => .free
  | forward => .forward
  | reverse => .reverse

theorem allows_plan (s : Schedule) : s.Allows s.plan := by
  cases s <;> trivial

end Schedule

end Landform
