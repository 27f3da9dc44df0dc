import Landform.Lattice

/-! # Value noise

The lattice values blended over the cell around a point. The blend is linear along each axis,
with weights that are eased so that they start and end flat. -/

namespace Landform.Noise

open scoped Scalar

variable {α : Type} [Scalar α]

/-- Maps `[0, 1]` onto itself, flat at both ends. -/
@[inline]
def ease (t : α) : α := t * t * (3 - 2 * t)

/-- From `a` at `t = 0` to `b` at `t = 1`. -/
@[inline]
def lerp (a b t : α) : α := a + (b - a) * t

/-- Zero up to `edge0`, one from `edge1` on, and eased in between. -/
@[inline]
def smoothstep (edge0 edge1 x : α) : α :=
  ease (Scalar.clamp 0 1 ((x - edge0) / (edge1 - edge0)))

/-- Blends the values at the four corners of a cell; the first letter of a name is the x side and
the second the z side, `l` for low and `h` for high. -/
@[inline]
def blend2 (ll hl lh hh tx tz : α) : α := lerp (lerp ll hl tx) (lerp lh hh tx) tz

/-- Value noise at a point of the plane; a point that is not finite has noise zero. -/
@[specialize]
def value2 (seed : UInt64) (x z : α) : α :=
  if Scalar.isFinite x && Scalar.isFinite z then
    let x0 := Scalar.floor x
    let z0 := Scalar.floor z
    let i := Scalar.toCell x0
    let k := Scalar.toCell z0
    blend2
      (Lattice.value2 seed i k) (Lattice.value2 seed (i + 1) k)
      (Lattice.value2 seed i (k + 1)) (Lattice.value2 seed (i + 1) (k + 1))
      (ease (x - x0)) (ease (z - z0))
  else 0

/-- Value noise at a point of space; a point that is not finite has noise zero. The layers below
and above the point are blended first, and then these two along y. -/
@[specialize]
def value3 (seed : UInt64) (x y z : α) : α :=
  if Scalar.isFinite x && Scalar.isFinite y && Scalar.isFinite z then
    let x0 := Scalar.floor x
    let y0 := Scalar.floor y
    let z0 := Scalar.floor z
    let i := Scalar.toCell x0
    let j := Scalar.toCell y0
    let k := Scalar.toCell z0
    let tx := ease (x - x0)
    let tz := ease (z - z0)
    let bottom := blend2
      (Lattice.value3 seed i j k) (Lattice.value3 seed (i + 1) j k)
      (Lattice.value3 seed i j (k + 1)) (Lattice.value3 seed (i + 1) j (k + 1)) tx tz
    let top := blend2
      (Lattice.value3 seed i (j + 1) k) (Lattice.value3 seed (i + 1) (j + 1) k)
      (Lattice.value3 seed i (j + 1) (k + 1)) (Lattice.value3 seed (i + 1) (j + 1) (k + 1)) tx tz
    lerp bottom top (ease (y - y0))
  else 0

end Landform.Noise
