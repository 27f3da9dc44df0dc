/-! # Keystream

A stream of words that a 64-bit seed determines. The seed is first stretched to a key of eight
words. Each block of the stream is then a four by four square of words (constants, key, block
number), stirred by eight rounds and added to itself. -/

namespace Landform.Keystream

/-! ## Rows -/

/-- One row of the square. -/
structure Row where
  a : UInt32
  b : UInt32
  c : UInt32
  d : UInt32
  deriving DecidableEq, Repr

namespace Row

/-- Combines two rows word by word. -/
@[inline]
def zip (f : UInt32 → UInt32 → UInt32) (p q : Row) : Row :=
  ⟨f p.a q.a, f p.b q.b, f p.c q.c, f p.d q.d⟩

/-- Turns every word left by `n` bits, for `0 < n < 32`. -/
@[inline]
def rotate (n : UInt32) (p : Row) : Row :=
  let turn (w : UInt32) := (w <<< n) ||| (w >>> (32 - n))
  ⟨turn p.a, turn p.b, turn p.c, turn p.d⟩

/-- Moves every word one place to the left, around the end. -/
@[inline]
def shift (p : Row) : Row := ⟨p.b, p.c, p.d, p.a⟩

/-- The words from left to right. -/
def words (p : Row) : List UInt32 := [p.a, p.b, p.c, p.d]

end Row

/-! ## The square -/

/-- Four rows of four words. -/
structure Square where
  constants : Row
  keyLow : Row
  keyHigh : Row
  position : Row
  deriving DecidableEq, Repr

namespace Square

/-- Stirs each of the four columns. -/
def columnRound (s : Square) : Square :=
  let add := Row.zip (· + ·)
  let xor := Row.zip (· ^^^ ·)
  let ⟨a, b, c, d⟩ := s
  let a := add a b
  let d := (xor d a).rotate 16
  let c := add c d
  let b := (xor b c).rotate 12
  let a := add a b
  let d := (xor d a).rotate 8
  let c := add c d
  let b := (xor b c).rotate 7
  ⟨a, b, c, d⟩

/-- Stirs each of the four diagonals, which are columns once the rows are shifted against each
other. -/
def diagonalRound (s : Square) : Square :=
  let t := columnRound
    ⟨s.constants, s.keyLow.shift, s.keyHigh.shift.shift, s.position.shift.shift.shift⟩
  ⟨t.constants, t.keyLow.shift.shift.shift, t.keyHigh.shift.shift, t.position.shift⟩

/-- A round of columns and a round of diagonals. -/
def doubleRound (s : Square) : Square := s.columnRound.diagonalRound

/-- The words of the square, row by row. -/
def words (s : Square) : List UInt32 :=
  s.constants.words ++ s.keyLow.words ++ s.keyHigh.words ++ s.position.words

end Square

/-! ## From a seed to a stream -/

/-- The state that follows `s` while a seed is stretched. -/
def nextState (s : UInt64) : UInt64 := s * 6364136223846793005 + 11634580027462260723

/-- The key word that a state yields: a middle part of the state, turned right by its top bits. -/
def keyWord (s : UInt64) : UInt32 :=
  let x := (((s >>> 18) ^^^ s) >>> 27).toUInt32
  let turn := (s >>> 59).toUInt32
  (x >>> turn) ||| (x <<< ((32 - turn) % 32))

/-- The first `n` key words of the states that follow `s`. -/
def stretch : Nat → UInt64 → List UInt32
  | 0, _ => []
  | n + 1, s => keyWord (nextState s) :: stretch n (nextState s)

/-- The two rows that hold a seed's key. -/
def keyRows (seed : UInt64) : Row × Row :=
  match stretch 8 seed with
  | [a, b, c, d, e, f, g, h] => (⟨a, b, c, d⟩, ⟨e, f, g, h⟩)
  | _ => (⟨0, 0, 0, 0⟩, ⟨0, 0, 0, 0⟩)

/-- The square that a block starts from. -/
def start (seed : UInt64) (block : UInt64) : Square :=
  let (low, high) := keyRows seed
  ⟨⟨0x61707865, 0x3320646E, 0x79622D32, 0x6B206574⟩, low, high,
    ⟨block.toUInt32, (block >>> 32).toUInt32, 0, 0⟩⟩

/-- The sixteen words of a block. -/
def block (seed : UInt64) (n : UInt64) : List UInt32 :=
  let s := start seed n
  let stirred := s.doubleRound.doubleRound.doubleRound.doubleRound
  List.zipWith (· + ·) stirred.words s.words

end Landform.Keystream
