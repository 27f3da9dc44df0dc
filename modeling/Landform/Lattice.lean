import Landform.Number.Scalar

/-! # The lattice hash

Every integer point of the plane and of space carries 64 bits, which depend on the point and
on a seed and on nothing else. The seed and the coordinates are absorbed one at a time, each
through a mix that is a bijection on words, so no bit of a coordinate or of the seed is lost
on the way. -/

namespace Landform.Lattice

open scoped Scalar

/-! ## Mixing words -/

/-- Spreads every bit of a word over the whole word. -/
@[inline]
def mix (h : UInt64) : UInt64 :=
  let h := (h ^^^ (h >>> 33)) * 0xFF51AFD7ED558CCD
  let h := (h ^^^ (h >>> 33)) * 0xC4CEB9FE1A85EC53
  h ^^^ (h >>> 33)

/-- Takes one coordinate into the state; each axis has a multiplier of its own. -/
@[inline]
def absorb (state : UInt64) (coordinate : Int64) (multiplier : UInt64) : UInt64 :=
  mix (state ^^^ coordinate.toUInt64 * multiplier)

/-- The odd multiplier of the x axis. -/
abbrev xMultiplier : UInt64 := 0x9E3779B97F4A7C15

/-- The odd multiplier of the y axis. -/
abbrev yMultiplier : UInt64 := 0xC2B2AE3D27D4EB4F

/-- The odd multiplier of the z axis. -/
abbrev zMultiplier : UInt64 := 0x165667B19E3779F9

/-- Sets the plane apart from the slice `y = 0` of space. -/
abbrev planeTag : UInt64 := 0x27D4EB2F165667C5

/-! ## Bits of a point -/

/-- The bits of a point of the plane. -/
@[inline]
def bits2 (seed : UInt64) (x z : Int64) : UInt64 :=
  absorb (absorb (mix (seed ^^^ planeTag)) x xMultiplier) z zMultiplier

/-- The bits of a point of space. -/
@[inline]
def bits3 (seed : UInt64) (x y z : Int64) : UInt64 :=
  absorb (absorb (absorb (mix (seed + zMultiplier)) x xMultiplier) y yMultiplier) z zMultiplier

theorem toNat_top_lt (bits : UInt64) : (bits >>> 11).toNat < Nat.pow 2 53 := by
  rw [UInt64.toNat_shiftRight, Nat.shiftRight_eq_div_pow]
  exact Nat.div_lt_of_lt_mul bits.toNat_lt

variable {α : Type} [Scalar α]

/-- The top 53 bits as a fraction in `[0, 1)`; the conversion is exact. -/
@[inline]
def unit (bits : UInt64) : α := Scalar.ofWord (bits >>> 11) * Scalar.ratio 1 (Nat.pow 2 53)

/-- Stretches `[0, 1)` to `[-1, 1)`. -/
@[inline]
def signed (h : α) : α := h * 2 - 1

/-- The value in `[-1, 1)` that a point of the plane carries. -/
@[inline]
def value2 (seed : UInt64) (x z : Int64) : α := signed (unit (bits2 seed x z))

/-- The value in `[-1, 1)` that a point of space carries. -/
@[inline]
def value3 (seed : UInt64) (x y z : Int64) : α := signed (unit (bits3 seed x y z))

end Landform.Lattice
