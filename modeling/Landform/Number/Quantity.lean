import Landform.Number.Layout

/-! # Quantities

A double as a text states it. The two differ only where a number is undefined: the text can put a
minus sign before it, which is kept and written again, and which no formula ever sees. -/

namespace Landform

/-- A double as a text states it. -/
structure Quantity where
  value : Float
  /-- The value is undefined and has a minus sign. -/
  minus : Bool

namespace Quantity

/-- The quantity of a double whose sign, if it has one, is its own. -/
def ofFloat (x : Float) : Quantity := ⟨x, false⟩

/-- The undefined number with a minus sign. -/
def minusNaN : Quantity := ⟨Float.ofBits 0x7FF8000000000000, true⟩

/-- Quantities are equal where their values are, so an undefined one differs from itself. -/
instance : BEq Quantity := ⟨fun p q => p.value == q.value⟩

/-- The text of a quantity, which shows that it is not an integer. -/
def text (q : Quantity) : String :=
  if q.minus then "-" ++ NumberLayout.pointed.text q.value else NumberLayout.pointed.text q.value

end Quantity

end Landform
