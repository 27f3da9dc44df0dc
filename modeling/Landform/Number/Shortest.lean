/-! # Shortest decimals

The shortest decimal that reads back as a given double, and of the shortest ones the nearest.

A finite double other than zero is `m * 2 ^ q`. The reals that round to it form an interval around
it, which contains its ends exactly when `m` is even. The decimals with `n` significant digits form
a grid, and the two points of the grid next to the double are the only ones to look at: if any point
of the grid lies in the interval then so does one of these two. -/

namespace Landform

/-- A decimal: the digits as a number, and the power of ten that they count. -/
structure Digits where
  digits : Nat
  exponent : Int
  deriving DecidableEq, Repr, Inhabited

namespace Shortest

/-- A positive number between the ends of the interval that rounds to it, all over a common
denominator. -/
structure Target where
  low : Nat
  value : Nat
  high : Nat
  denominator : Nat
  /-- Whether the ends round to the number as well. -/
  closed : Bool

/-- The target of `m * 2 ^ q`. Below a power of two the neighbours are twice as dense, so there the
lower end is half as far away. -/
def Target.ofBinary (m : Nat) (q : Int) : Target :=
  let (scale, denominator) :=
    if 0 ≤ q then (Nat.pow 2 q.toNat, 4) else (1, 4 * Nat.pow 2 (-q).toNat)
  let below := if m = Nat.pow 2 52 ∧ -1074 < q then 1 else 2
  { low := (4 * m - below) * scale
    value := 4 * m * scale
    high := (4 * m + 2) * scale
    denominator
    closed := m % 2 = 0 }

/-- Whether `d * 10 ^ e` lies in the interval. -/
def Target.accepts (t : Target) (d : Nat) (e : Int) : Bool :=
  let (point, unit) :=
    if 0 ≤ e then (d * Nat.pow 10 e.toNat * t.denominator, 1)
    else (d * t.denominator, Nat.pow 10 (-e).toNat)
  if t.closed then t.low * unit ≤ point ∧ point ≤ t.high * unit
  else t.low * unit < point ∧ point < t.high * unit

/-- Four times the value in units of `10 ^ e`, rounded down, with a bit for what was lost: enough to
tell which neighbour on the grid is nearer. -/
def Target.floorOn (t : Target) (e : Int) : Nat × Nat × Nat :=
  let (n, d) :=
    if 0 ≤ e then (t.value, t.denominator * Nat.pow 10 e.toNat)
    else (t.value * Nat.pow 10 (-e).toNat, t.denominator)
  (n / d, n % d, d)

/-- The point of the grid of `10 ^ e` that reads back, the nearer one of two; of two equally near
ones the upper. -/
def Target.onGrid? (t : Target) (e : Int) : Option Nat :=
  let (below, rest, unit) := t.floorOn e
  match t.accepts below e && below != 0, t.accepts (below + 1) e with
  | true, true => some (if 2 * rest < unit then below else below + 1)
  | true, false => some below
  | false, true => some (below + 1)
  | false, false => none

/-- The least `k` for which the value is less than `10 ^ k`, searched upwards from `k`. -/
def Target.magnitude (t : Target) : Nat → Int → Int
  | 0, k => k
  | fuel + 1, k =>
    let less :=
      if 0 ≤ k then t.value < t.denominator * Nat.pow 10 k.toNat
      else t.value * Nat.pow 10 (-k).toNat < t.denominator
    if less then k else t.magnitude fuel (k + 1)

/-- Moves trailing zeros into the exponent. -/
def trimZeros : Nat → Digits → Digits
  | 0, d => d
  | fuel + 1, d =>
    if d.digits % 10 = 0 ∧ d.digits ≠ 0 then trimZeros fuel ⟨d.digits / 10, d.exponent + 1⟩ else d

/-- Tries finer and finer grids, beginning with that of `10 ^ e`. -/
def Target.search (t : Target) : Nat → Int → Digits
  | 0, e => ⟨(t.floorOn e).1, e⟩
  | fuel + 1, e =>
    match t.onGrid? e with
    | some d => trimZeros 20 ⟨d, e⟩
    | none => t.search fuel (e - 1)

end Shortest

/-- The shortest digits of a finite double other than zero, without its sign. Seventeen digits
always suffice. -/
def Shortest.ofBits (bits : UInt64) : Digits :=
  let exponent := (bits >>> 52 &&& 0x7FF).toNat
  let fraction := (bits &&& 0xFFFFFFFFFFFFF).toNat
  let (m, q) : Nat × Int :=
    if exponent = 0 then (fraction, -1074) else (fraction + Nat.pow 2 52, exponent - 1075)
  let t := Shortest.Target.ofBinary m q
  -- the double lies below `2 ^ (q + 53)`, and `2 ^ 10` is a little more than `10 ^ 3`
  let k := t.magnitude 700 ((Nat.log2 m + q) * 3 / 10 - 8)
  t.search 17 (k - 1)

end Landform
