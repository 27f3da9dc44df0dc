import Landform.Number.Shortest

/-! # Layouts of numbers

How a double is written out: which magnitudes are positional and which have an exponent, and what
whole numbers, zeros and the numbers that are not finite look like. The digits are always the
shortest ones that read back. -/

namespace Landform

/-- The decisions of one way to write doubles. -/
structure NumberLayout where
  /-- Written after a whole number in positional form. -/
  wholeSuffix : String
  /-- The exponents `e` of numbers `d.ddd * 10 ^ e` that are positional. -/
  positional : Int → Bool

namespace NumberLayout

/-- Plain numbers: always positional, and whole numbers without a point. -/
def plain : NumberLayout := ⟨"", fun _ => true⟩

/-- Numbers that show that they are not integers: whole numbers end in `.0`, and an exponent is used
from `10 ^ 16` on and below `10 ^ -4`. -/
def pointed : NumberLayout := ⟨".0", fun e => -4 ≤ e ∧ e < 16⟩

/-- Digits around a point that stands `point` places after the first digit. -/
def positionalText (layout : NumberLayout) (digits : List Char) (point : Int) : String :=
  let n := digits.length
  if point ≤ 0 then
    "0." ++ String.ofList (List.replicate (-point).toNat '0' ++ digits)
  else if n ≤ point.toNat then
    String.ofList (digits ++ List.replicate (point.toNat - n) '0') ++ layout.wholeSuffix
  else
    String.ofList (digits.take point.toNat) ++ "." ++ String.ofList (digits.drop point.toNat)

/-- One digit, the others after a point, and the exponent. -/
def exponentText (digits : List Char) (exponent : Int) : String :=
  let rest := digits.drop 1
  String.ofList (digits.take 1) ++ (if rest.isEmpty then "" else "." ++ String.ofList rest) ++
    "e" ++ toString exponent

/-- The text of a magnitude other than zero. -/
def magnitudeText (layout : NumberLayout) (d : Digits) : String :=
  let digits := Nat.toDigits 10 d.digits
  let exponent : Int := d.exponent + digits.length - 1
  if layout.positional exponent then layout.positionalText digits (exponent + 1)
  else exponentText digits exponent

/-- The text of a double. -/
def text (layout : NumberLayout) (x : Float) : String :=
  if x.isNaN then "NaN"
  else
    let bits := x.toBits
    let sign := if bits >>> 63 == 1 then "-" else ""
    let magnitude := bits &&& 0x7FFFFFFFFFFFFFFF
    if magnitude == 0x7FF0000000000000 then sign ++ "inf"
    else if magnitude == 0 then sign ++ "0" ++ layout.wholeSuffix
    else sign ++ layout.magnitudeText (Shortest.ofBits magnitude)

end NumberLayout

end Landform
