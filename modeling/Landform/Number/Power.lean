import Landform.Number.Double

/-! # Powers

`x ^ y` for doubles. The logarithm of `x` to base two and its product with `y` are carried as sums
of two doubles, of which the first has its low half cleared so that products of first parts are
exact; the power of two of the result is then assembled from a fraction and an exponent. The error
stays below one unit in the last place, and every operation is in a fixed order, so the result is
the same everywhere. -/

namespace Landform

namespace Power

/-! ## Halves of a double -/

/-- The upper 32 bits. -/
def high (x : Float) : UInt32 := (x.toBits >>> 32).toUInt32

/-- The lower 32 bits. -/
def low (x : Float) : UInt32 := x.toBits.toUInt32

/-- The double with the given halves. -/
def ofHalves (hi lo : UInt32) : Float := Float.ofBits (hi.toUInt64 <<< 32 ||| lo.toUInt64)

/-- The number with its lower half cleared. -/
def head (x : Float) : Float := ofHalves (high x) 0

/-- The number with its upper half replaced. -/
def withHigh (x : Float) (hi : UInt32) : Float := ofHalves hi (low x)

/-! ## Exponents -/

/-- Whether a number is an integer, and if so whether it is odd. -/
inductive Parity where
  | fraction
  | odd
  | even
  deriving DecidableEq, Repr

/-- The parity of a finite number other than zero. -/
def parity (y : Float) : Parity :=
  let hi := high y &&& 0x7FFFFFFF
  let lo := low y
  if hi ≥ 0x43400000 then .even
  else if hi ≥ 0x3FF00000 then
    let k := (hi >>> 20) - 0x3FF
    if k > 20 then
      let j := lo >>> (52 - k)
      if j <<< (52 - k) == lo then (if j &&& 1 == 1 then .odd else .even) else .fraction
    else if lo == 0 then
      let j := hi >>> (20 - k)
      if j <<< (20 - k) == hi then (if j &&& 1 == 1 then .odd else .even) else .fraction
    else .fraction
  else .fraction

/-- `2 ^ n` for an `n` whose power is a normal number. -/
def twoPow (n : Int32) : Float := Float.ofBits ((n + 0x3FF).toUInt32.toUInt64 <<< 52)

/-- `x * 2 ^ n`, where a subnormal result is rounded once. -/
def scale (x : Float) (n : Int32) : Float :=
  -- the steps are `2 ^ 1023` upwards and `2 ^ -969` downwards
  let up := Float.ofBits 0x7FE0000000000000
  let down := Float.ofBits 0x0360000000000000
  if n > 1023 then
    let n := n - 1023
    if n > 1023 then
      let n := n - 1023
      x * up * up * twoPow (if n > 1023 then 1023 else n)
    else x * up * twoPow n
  else if n < -1022 then
    let n := n + 969
    if n < -1022 then
      let n := n + 969
      x * down * down * twoPow (if n < -1022 then -1022 else n)
    else x * down * twoPow n
  else x * twoPow n

/-! ## The logarithm -/

/-- A number as the sum of a head with a cleared lower half and a small rest. -/
structure Pair where
  head : Float
  rest : Float

/-- The logarithm to base two of a magnitude close to one, by the first terms of its series. -/
def logNearOne (x : Float) : Pair :=
  let t := x - 1
  let w := (t * t) * (0.5 - t * (0.3333333333333333333333 - t * 0.25))
  let u := Float.ofBits 0x3FF7154760000000 * t
  let v := t * Float.ofBits 0x3E54AE0BF85DDF44 - w * Float.ofBits 0x3FF71547652B82FE
  let h := head (u + v)
  ⟨h, v - (h - u)⟩

/-- The logarithm to base two of a positive finite magnitude. The magnitude is reduced to one near
1 or near 3/2, and a series is summed in the quotient of difference and sum of the two. -/
def log (x : Float) : Pair :=
  let tiny := high x < 0x00100000
  let x := if tiny then x * 9007199254740992 else x
  let n : Int32 := ((high x >>> 20).toInt32 - 0x3FF) - (if tiny then 53 else 0)
  let j := high x &&& 0x000FFFFF
  -- the boundaries are the square roots of 3/2 and of 3
  let nearOne := j ≤ 0x3988E
  let nearThreeHalves := !nearOne && j < 0xBB67A
  let n := if nearOne || nearThreeHalves then n else n + 1
  let top := if nearOne || nearThreeHalves then j ||| 0x3FF00000
    else (j ||| 0x3FF00000) - 0x00100000
  let x := withHigh x top
  let base : Float := if nearThreeHalves then 1.5 else 1
  let baseHead := if nearThreeHalves then Float.ofBits 0x3FE2B80340000000 else 0
  let baseRest := if nearThreeHalves then Float.ofBits 0x3E4CFDEB43CFD006 else 0
  let u := x - base
  let v := 1 / (x + base)
  let s := u * v
  let sh := head s
  let th := ofHalves
    (((top >>> 1) ||| 0x20000000) + 0x00080000 + (if nearThreeHalves then 0x00040000 else 0)) 0
  let tl := x - (th - base)
  let sl := v * ((u - sh * th) - sh * tl)
  let s2 := s * s
  let r := s2 * s2 * (Float.ofBits 0x3FE3333333333303 + s2 * (Float.ofBits 0x3FDB6DB6DB6FABFF +
    s2 * (Float.ofBits 0x3FD55555518F264D + s2 * (Float.ofBits 0x3FD17460A91D4101 +
    s2 * (Float.ofBits 0x3FCD864A93C9DB65 + s2 * Float.ofBits 0x3FCA7E284A454EEF)))))
  let r := r + sl * (sh + s)
  let s2 := sh * sh
  let th := head (3 + s2 + r)
  let tl := r - ((th - 3) - s2)
  let u := sh * th
  let v := sl * th + tl * s
  let ph := head (u + v)
  let pl := v - (ph - u)
  let zh := Float.ofBits 0x3FEEC709E0000000 * ph
  let zl := Float.ofBits 0xBE3E2FE0145B01F5 * ph + pl * Float.ofBits 0x3FEEC709DC3A03FD + baseRest
  let t := Float.ofInt n.toInt
  let h := head (((zh + zl) + baseHead) + t)
  ⟨h, zl - (((h - t) - baseHead) - zh)⟩

/-! ## The power of two -/

/-- `2 ^ (ph + pl)`, where `z` is the rounded sum. -/
def twoPowPair (ph pl z : Float) : Float :=
  let j := high z
  let i := j &&& 0x7FFFFFFF
  let (n, ph) : Int32 × Float :=
    if i > 0x3FE00000 then
      let k := (i >>> 20) - 0x3FF
      let m := j + (0x00100000 >>> (k + 1))
      let k := ((m &&& 0x7FFFFFFF) >>> 20) - 0x3FF
      let t := ofHalves (m &&& ~~~(0x000FFFFF >>> k)) 0
      let whole := (((m &&& 0x000FFFFF) ||| 0x00100000) >>> (20 - k)).toInt32
      (if j >>> 31 == 1 then 0 - whole else whole, ph - t)
    else (0, ph)
  let t := head (pl + ph)
  let u := t * Float.ofBits 0x3FE62E4300000000
  let v := (pl - (t - ph)) * Float.ofBits 0x3FE62E42FEFA39EF + t * Float.ofBits 0xBE205C610CA86C39
  let z := u + v
  let w := v - (z - u)
  let t := z * z
  let t1 := z - t * (Float.ofBits 0x3FC555555555553E + t * (Float.ofBits 0xBF66C16C16BEBD93 +
    t * (Float.ofBits 0x3F11566AAF25DE2C + t * (Float.ofBits 0xBEBBBD41C5D26BF1 +
    t * Float.ofBits 0x3E66376972BEA4D0))))
  let r := (z * t1) / (t1 - 2) - (w + z * w)
  let z := 1 - (r - z)
  let j := (high z).toInt32 + (n <<< 20)
  if j >>> 20 ≤ 0 then scale z n else withHigh z j.toUInt32

/-! ## Powers -/

/-- What every product of two huge numbers becomes. -/
def overflow (sign : Float) : Float := sign * Float.ofBits 0x7E37E43C8800759C *
  Float.ofBits 0x7E37E43C8800759C

/-- What every product of two tiny numbers becomes. -/
def underflow (sign : Float) : Float := sign * Float.ofBits 0x01A56E1FC2F8F359 *
  Float.ofBits 0x01A56E1FC2F8F359

/-- `sign * 2 ^ (y * l)`, where `l` is a logarithm. -/
def exponentiate (sign y : Float) (l : Pair) : Float :=
  let y1 := head y
  let pl := (y - y1) * l.head + y * l.rest
  let ph := y1 * l.head
  let z := pl + ph
  let j := high z
  let i := low z
  if j ≥ 0x40900000 && j < 0x80000000 then
    if ((j - 0x40900000) ||| i) != 0 then overflow sign
    else if pl + Float.ofBits 0x3C971547652B82FE > z - ph then overflow sign
    else sign * twoPowPair ph pl z
  else if (j &&& 0x7FFFFFFF) ≥ 0x4090CC00 then
    if ((j - 0xC090CC00) ||| i) != 0 then underflow sign
    else if pl ≤ z - ph then underflow sign
    else sign * twoPowPair ph pl z
  else sign * twoPowPair ph pl z

/-- The power of a base that is zero, one or infinite in magnitude. -/
def powSpecial (x y : Float) : Float :=
  let z := if high y >>> 31 == 1 then 1 / x.abs else x.abs
  if high x >>> 31 == 1 then
    match parity y with
    | .fraction => if x.abs == 1 then (z - z) / (z - z) else z
    | .odd => -z
    | .even => z
  else z

/-- The power of a finite base other than zero and one in magnitude. -/
def powFinite (x y : Float) : Float :=
  let negative := high x >>> 31 == 1
  let p := parity y
  if negative && p = .fraction then (x - x) / (x - x)
  else
    let sign : Float := if negative && p = .odd then -1 else 1
    let ix := high x &&& 0x7FFFFFFF
    let iy := high y &&& 0x7FFFFFFF
    let falling := high y >>> 31 == 1
    if iy > 0x43F00000 then
      if ix ≤ 0x3FEFFFFF then (if falling then overflow 1 else underflow 1)
      else (if falling then underflow 1 else overflow 1)
    else if iy > 0x41E00000 then
      if ix < 0x3FEFFFFF then (if falling then overflow sign else underflow sign)
      else if ix > 0x3FF00000 then (if falling then underflow sign else overflow sign)
      else exponentiate sign y (logNearOne x.abs)
    else exponentiate sign y (log x.abs)

end Power

/-- `x ^ y`. The power is one wherever `y` is zero or `x` is one, and else undefined where either is
undefined or `x` is negative and `y` not a whole number. -/
def pow (x y : Float) : Float :=
  let ix := Power.high x &&& 0x7FFFFFFF
  if y == 0 || x == 1 then 1
  else if x.isNaN || y.isNaN then x + y
  else if y.abs == Float.ofBits 0x7FF0000000000000 then
    if x.abs == 1 then 1
    else if ix ≥ 0x3FF00000 then (if 0 < y then y else 0)
    else (if 0 < y then 0 else -y)
  else if y == 1 then x
  else if y == -1 then 1 / x
  else if y == 2 then x * x
  else if y == 0.5 && Power.high x < 0x80000000 then x.sqrt
  else if Power.low x == 0 && (ix == 0x7FF00000 || ix == 0 || ix == 0x3FF00000) then
    Power.powSpecial x y
  else Power.powFinite x y

end Landform
