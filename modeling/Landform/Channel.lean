import Landform.Keystream
import Landform.Lattice
import Landform.Request

/-! # Channels

Every noise of a world has a seed of its own, made from the world seed, the dimension and a salt.
Besides, each world is moved by an offset of its own, so that no world is another one shifted. -/

namespace Landform

/-- The noise seed of the channel with the given salt. -/
def channelSeed (worldSeed : UInt64) (d : Dimension) (salt : UInt64) : UInt64 :=
  let h := Lattice.mix (worldSeed ^^^ 0x5EED000000000000)
  let h := Lattice.mix (h ^^^ d.code.toUInt64 * 0x9E3779B97F4A7C15)
  Lattice.mix (h + salt)

/-- The offsets of a world, in blocks: of the plane, for heights and climate, and of space, for
caves and marks. -/
structure WorldOffset where
  columnX : Int
  columnZ : Int
  volumeX : Int
  volumeY : Int
  volumeZ : Int
  deriving DecidableEq, Repr

namespace WorldOffset

/-- Every offset is at least `-span` and less than `span`. -/
def span : Int := 0x100000

/-- An offset from the top 21 bits of a word. -/
def ofWord (w : UInt32) : Int := (w >>> 11).toNat - span

/-- The offsets of the world with the given seed: the first five words of its keystream. -/
def ofSeed (seed : UInt64) : WorldOffset :=
  match Keystream.block seed 0 with
  | a :: b :: c :: d :: e :: _ => ⟨ofWord a, ofWord b, ofWord c, ofWord d, ofWord e⟩
  | _ => ⟨0, 0, 0, 0, 0⟩

end WorldOffset

end Landform
