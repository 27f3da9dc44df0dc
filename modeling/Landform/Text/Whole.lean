/-! # Whole numbers as text

A whole number is written in decimal digits after an optional sign, and is read only where it
lies in the range asked for. -/

namespace Landform.Text

/-- The number that a non-empty run of decimal digits stands for. -/
def digits? (cs : List Char) : Option Nat :=
  if !cs.isEmpty && cs.all Char.isDigit then
    some (cs.foldl (fun n c => 10 * n + (c.toNat - '0'.toNat)) 0)
  else none

/-- Splits off a sign; `true` stands for a minus. -/
def splitSign : List Char → Bool × List Char
  | '+' :: cs => (false, cs)
  | '-' :: cs => (true, cs)
  | cs => (false, cs)

/-- A range of whole numbers, both ends included. -/
structure WholeRange where
  lo : Int
  hi : Int
  deriving DecidableEq, Repr

namespace WholeRange

/-- Signed numbers of 32 bits. -/
def int32 : WholeRange := ⟨-0x80000000, 0x7FFFFFFF⟩

/-- Signed numbers of 64 bits. -/
def int64 : WholeRange := ⟨-0x8000000000000000, 0x7FFFFFFFFFFFFFFF⟩

/-- Unsigned numbers of 8 bits. -/
def word8 : WholeRange := ⟨0, 0xFF⟩

/-- Unsigned numbers of 32 bits. -/
def word32 : WholeRange := ⟨0, 0xFFFFFFFF⟩

/-- Unsigned numbers of 64 bits. -/
def word64 : WholeRange := ⟨0, 0xFFFFFFFFFFFFFFFF⟩

/-- The number itself, if it lies in the range. -/
def check (r : WholeRange) (n : Int) : Option Int :=
  if r.lo ≤ n ∧ n ≤ r.hi then some n else none

/-- Reads a number of the range. A minus is a sign only where the range has negative numbers. -/
def read? (r : WholeRange) (cs : List Char) : Option Int :=
  let (minus, ds) := splitSign cs
  if minus && 0 ≤ r.lo then none
  else (digits? ds).bind fun n => r.check (if minus then -n else n)

end WholeRange

end Landform.Text
