/-! # Double precision numbers

The steps by which a double meets the integers, and its narrowing to single precision.
All of them are written on the bits or with correctly rounded operations, so each has a
value that a proof can compute. -/

namespace Landform.Double

/-- Magnitudes from here on have no fractional part. -/
def wholeFrom : Float := 4503599627370496

/-- The largest whole number not above `x`. -/
def floor (x : Float) : Float :=
  if x.abs < wholeFrom then
    if x < 0 then
      let below := 0 - (0 - x).toUInt64.toFloat
      if x < below then below - 1 else below
    else x.toUInt64.toFloat
  else x

/-- The lattice coordinate of a whole number; numbers beyond the 64-bit range go to its ends. -/
def toCell (x : Float) : Int64 :=
  if x < 0 then
    if x ≤ -9223372036854775808 then Int64.minValue else (0 - (0 - x).toUInt64).toInt64
  else if 9223372036854775808 ≤ x then Int64.maxValue
  else x.toUInt64.toInt64

/-- Drops the last `n` bits of `m`, rounding to the nearest and a half to the even neighbour. -/
def roundShift (m : UInt64) (n : UInt64) : UInt64 :=
  let kept := m >>> n
  let lost := m - (kept <<< n)
  let half := (1 : UInt64) <<< (n - 1)
  if lost > half || (lost == half && kept &&& 1 == 1) then kept + 1 else kept

/-- The nearest single precision number, ties to even. Magnitudes beyond the range become
infinite, and those below half the smallest subnormal become zero. -/
def toSingle (x : Float) : Float32 :=
  let bits := x.toBits
  let sign := (bits >>> 63 <<< 31).toUInt32
  let exponent := bits >>> 52 &&& 0x7FF
  let fraction := bits &&& 0xFFFFFFFFFFFFF
  let magnitude : UInt64 :=
    if exponent == 0x7FF then
      if fraction == 0 then 0x7F800000 else 0x7FC00000
    else if exponent > 1150 then 0x7F800000
    else if exponent > 896 then
      -- a carry out of the fraction moves into the exponent, and at the top to infinity
      ((exponent - 897) <<< 23) + roundShift (fraction ||| 0x10000000000000) 29
    else if exponent > 871 then
      roundShift (fraction ||| 0x10000000000000) (926 - exponent)
    else 0
  Float32.ofBits (sign ||| magnitude.toUInt32)

end Landform.Double
