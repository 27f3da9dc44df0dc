import Landform.Text.Whole
import Landform.Number.Shortest

/-! # Reading decimals

A decimal has an optional sign, digits around an optional point, and an optional exponent. Its value
as a double is the nearest one. -/

namespace Landform

/-- The double nearest to a decimal. -/
def Digits.toFloat (d : Digits) : Float :=
  if 0 ≤ d.exponent then Float.ofScientific d.digits false d.exponent.toNat
  else Float.ofScientific d.digits true (-d.exponent).toNat

namespace Decimal

/-- The value of a run of decimal digits, which may be empty. -/
def run (cs : List Char) : Nat := cs.foldl (fun n c => 10 * n + (c.toNat - '0'.toNat)) 0

/-- Reads the exponent after its mark. -/
def exponent? (cs : List Char) : Option Int :=
  let (minus, ds) := Text.splitSign cs
  (Text.digits? ds).map fun n => if minus then -n else n

/-- Reads digits with an optional point and an optional exponent, without a sign. At least one digit
stands before or after the point. -/
def magnitude? (cs : List Char) : Option Digits :=
  let whole := cs.takeWhile Char.isDigit
  let rest := cs.dropWhile Char.isDigit
  let (part, rest) := match rest with
    | '.' :: r => (r.takeWhile Char.isDigit, r.dropWhile Char.isDigit)
    | r => ([], r)
  if whole.isEmpty && part.isEmpty then none
  else
    let exponent? := match rest with
      | [] => some 0
      | c :: r => if c == 'e' || c == 'E' then Decimal.exponent? r else none
    exponent?.map fun e => ⟨run (whole ++ part), e - part.length⟩

/-- Reads a signed decimal. -/
def read? (cs : List Char) : Option Float :=
  let (minus, rest) := Text.splitSign cs
  (magnitude? rest).map fun d => if minus then -d.toFloat else d.toFloat

end Decimal

end Landform
