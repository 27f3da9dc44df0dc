import Landform.Biome
import Landform.Request

/-! # Checksums

A chunk has a checksum over its key and its biomes: a polynomial in 31 whose coefficients are the
words of the key and the codes of the biomes, computed modulo `2 ^ 32`. It is a key for caches and
no protection against tampering. -/

namespace Landform.Checksum

/-- Takes one more word into a checksum. -/
@[inline]
def fold (hash word : UInt32) : UInt32 := hash * 31 + word

/-- The words of a key. -/
def keyWords (k : ChunkKey) : List UInt32 :=
  [k.x.toUInt32, k.z.toUInt32, k.seed.toUInt32, (k.seed >>> 32).toUInt32, k.dimension.code.toUInt32]

/-- The checksum of a key alone. -/
def ofKey (k : ChunkKey) : UInt32 := (keyWords k).foldl fold 17

/-- The checksum of a key and the bytes that follow it. -/
def ofBytes (k : ChunkKey) (bytes : List UInt8) : UInt32 :=
  bytes.foldl (fun h b => fold h b.toUInt32) (ofKey k)

/-- The checksum of a key and a list of biomes. -/
def ofBiomes (k : ChunkKey) (biomes : List Biome) : UInt32 := ofBytes k (biomes.map Biome.code)

end Landform.Checksum
