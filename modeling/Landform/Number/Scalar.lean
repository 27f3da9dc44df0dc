import Landform.Number.Double

/-! # Scalars

The numbers that the terrain formulas compute with. A formula is written once, over any
`Scalar`, in a fixed order of operations. Doubles run it, and exact rationals give the
value that the formula stands for. -/

namespace Landform

/-- Ordered numbers with the four operations and the steps that lead to the integer lattice. -/
class Scalar (α : Type) extends Add α, Sub α, Mul α, Div α, LT α, LE α where
  decLt : DecidableLT α
  decLe : DecidableLE α
  /-- The number `n`. -/
  ofNat : Nat → α
  /-- The number `n`. -/
  ofInt : Int → α
  /-- The number that a word stands for. -/
  ofWord : UInt64 → α
  /-- The magnitude. -/
  abs : α → α
  /-- Neither infinite nor undefined. -/
  isFinite : α → Bool
  /-- The largest whole number not above the argument. -/
  floor : α → α
  /-- The lattice coordinate of a whole number, kept within 64 bits. -/
  toCell : α → Int64

namespace Scalar

attribute [reducible, instance] Scalar.decLt Scalar.decLe

/-- Numerals. Concrete scalars keep their own. -/
scoped instance (priority := low) {α : Type} [Scalar α] (n : Nat) : OfNat α n := ⟨Scalar.ofNat n⟩

variable {α : Type} [Scalar α]

/-- The value itself if it is finite, and zero otherwise. -/
@[inline] def finiteOrZero (v : α) : α := if isFinite v then v else 0

/-- `v` held between `lo` and `hi`. An undefined `v` stays as it is. -/
@[inline] def clamp (lo hi v : α) : α :=
  let v := if v < lo then lo else v
  if hi < v then hi else v

/-- `n / d`, the value of a decimal or a fraction in a table. -/
@[inline] def ratio (n d : Nat) : α := ofNat n / ofNat d

end Scalar

/-- Doubles: every operation is rounded to nearest. -/
instance : Scalar Float where
  decLt := inferInstance
  decLe := inferInstance
  ofNat := Float.ofNat
  ofInt := Float.ofInt
  ofWord := UInt64.toFloat
  abs := Float.abs
  isFinite := Float.isFinite
  floor := Double.floor
  toCell := Double.toCell

/-- Rationals: every operation is exact. -/
instance : Scalar Rat where
  decLt := inferInstance
  decLe := inferInstance
  ofNat n := n
  ofInt n := n
  ofWord w := w.toNat
  abs := Rat.abs
  isFinite _ := true
  floor x := x.floor
  toCell x := Int64.ofInt (max Int64.minValue.toInt (min Int64.maxValue.toInt x.floor))

end Landform
