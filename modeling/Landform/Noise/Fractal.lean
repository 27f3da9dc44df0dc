import Landform.Noise.Value

/-! # Fractal and ridged noise

A fractal sum adds octaves of value noise. Each octave has a seed of its own, and its frequency
and its amplitude are the last octave's times a fixed factor. The sum is divided by the total
amplitude, so it keeps the range of one octave. -/

namespace Landform

open scoped Scalar

/-- A sum of octaves of value noise. -/
structure Fractal (α : Type) where
  /-- The seed of the first octave; the next ones count up from it. -/
  seed : UInt64
  /-- The number of octaves. -/
  octaves : UInt32
  /-- The frequency of the first octave, in cycles per block. -/
  frequency : α
  /-- What the frequency is multiplied by from one octave to the next. -/
  lacunarity : α
  /-- What the amplitude is multiplied by from one octave to the next. -/
  persistence : α

namespace Fractal

variable {α : Type} [Scalar α]

/-- Octaves that double the frequency and halve the amplitude. -/
@[inline]
def ofOctaves (seed : UInt64) (octaves : UInt32) (frequency : α) : Fractal α where
  seed := seed
  octaves := octaves
  frequency := frequency
  lacunarity := 2
  persistence := Scalar.ratio 1 2

/-- The sum divided by the total amplitude, or zero where that makes no sense. -/
@[inline]
def normalize (total amplitudes : α) : α :=
  if 0 < amplitudes then Scalar.finiteOrZero (total / amplitudes) else 0

/-- Adds `n` more octaves to a sum, beginning with the one of the given seed, frequency and
amplitude. -/
@[specialize]
def addOctaves2 (lacunarity persistence x z : α) :
    Nat → (seed : UInt64) → (frequency amplitude total amplitudes : α) → α
  | 0, _, _, _, total, amplitudes => normalize total amplitudes
  | n + 1, seed, frequency, amplitude, total, amplitudes =>
    addOctaves2 lacunarity persistence x z n (seed + 1)
      (frequency * lacunarity) (amplitude * persistence)
      (total + Noise.value2 seed (x * frequency) (z * frequency) * amplitude)
      (amplitudes + amplitude)

/-- Adds `n` more octaves to a sum, beginning with the one of the given seed, frequency and
amplitude. -/
@[specialize]
def addOctaves3 (lacunarity persistence x y z : α) :
    Nat → (seed : UInt64) → (frequency amplitude total amplitudes : α) → α
  | 0, _, _, _, total, amplitudes => normalize total amplitudes
  | n + 1, seed, frequency, amplitude, total, amplitudes =>
    addOctaves3 lacunarity persistence x y z n (seed + 1)
      (frequency * lacunarity) (amplitude * persistence)
      (total + Noise.value3 seed (x * frequency) (y * frequency) (z * frequency) * amplitude)
      (amplitudes + amplitude)

/-- The fractal sum at a point of the plane. -/
@[specialize]
def sample2 (f : Fractal α) (x z : α) : α :=
  addOctaves2 f.lacunarity f.persistence x z f.octaves.toNat f.seed f.frequency 1 0 0

/-- The fractal sum at a point of space. -/
@[specialize]
def sample3 (f : Fractal α) (x y z : α) : α :=
  addOctaves3 f.lacunarity f.persistence x y z f.octaves.toNat f.seed f.frequency 1 0 0

end Fractal

/-- Turns noise into ridges: the value is largest where the noise crosses zero. -/
@[inline]
def Noise.ridge {α : Type} [Scalar α] (noise : α) : α := 1 - Scalar.abs (Scalar.finiteOrZero noise)

end Landform
