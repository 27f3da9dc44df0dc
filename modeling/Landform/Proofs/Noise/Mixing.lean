import Landform.Lattice
import Mathlib.Data.UInt
import Mathlib.Logic.Equiv.Defs
import Mathlib.Tactic.Common

/-! # Nothing is lost in a mix

A mix folds the upper part of a word into the lower one, which undoes itself, and multiplies by odd
numbers, which have inverses modulo `2 ^ 64`. So every word is the mix of exactly one word. The bits
of a lattice point absorb the seed and the coordinates one after the other, each by steps of this
kind. While one of them runs through its words and the others stay, the bits take every value
exactly once. -/

namespace Landform.Lattice

open Function

/-! ## Steps that can be undone -/

/-- A word with its upper 31 bits added, without carries, to its lower ones. -/
def foldUpper (h : UInt64) : UInt64 := h ^^^ (h >>> 33)

theorem shiftRight_shiftRight (h : UInt64) : h >>> 33 >>> 33 = 0 := by
  apply UInt64.toBitVec_inj.mp
  change h.toBitVec >>> 33 >>> 33 = 0#64
  rw [← BitVec.shiftRight_add]
  exact BitVec.ushiftRight_eq_zero (by decide)

/-- The upper bits stay as they are, so that adding them once more takes them away. -/
theorem foldUpper_involutive : Involutive foldUpper := by
  intro h
  unfold foldUpper
  rw [UInt64.shiftRight_xor, shiftRight_shiftRight, UInt64.xor_zero, UInt64.xor_assoc,
    UInt64.xor_self, UInt64.xor_zero]

theorem xor_bijective (w : UInt64) : Bijective (w ^^^ ·) := by
  have hinvolutive : Involutive (w ^^^ ·) := by
    intro h
    change w ^^^ (w ^^^ h) = h
    rw [← UInt64.xor_assoc, UInt64.xor_self, UInt64.zero_xor]
  exact hinvolutive.bijective

theorem xor_right_bijective (w : UInt64) : Bijective (· ^^^ w) := by
  simpa only [UInt64.xor_comm] using xor_bijective w

theorem add_bijective (w : UInt64) : Bijective (w + ·) := by
  refine ⟨fun a b => (UInt64.add_right_inj w).mp, fun b => ⟨b - w, ?_⟩⟩
  change w + (b - w) = b
  grind

theorem add_right_bijective (w : UInt64) : Bijective (· + w) := by
  simpa only [UInt64.add_comm] using add_bijective w

/-- A factor with an inverse. -/
theorem mul_bijective {m n : UInt64} (h : m * n = 1) : Bijective (· * m) := by
  constructor
  · intro a b hab
    change a * m = b * m at hab
    grind
  · intro b
    refine ⟨b * n, ?_⟩
    change b * n * m = b
    grind

theorem toUInt64_bijective : Bijective Int64.toUInt64 :=
  bijective_iff_has_inverse.mpr
    ⟨UInt64.toInt64, Int64.toInt64_toUInt64, UInt64.toUInt64_toInt64⟩

/-! ## Mixing -/

theorem mix_eq (h : UInt64) :
    mix h = foldUpper
      (foldUpper (foldUpper h * 0xFF51AFD7ED558CCD) * 0xC4CEB9FE1A85EC53) := rfl

/-- The word that a word is the mix of. -/
def unmix (h : UInt64) : UInt64 :=
  foldUpper (foldUpper (foldUpper h * 0x9CB4B2F8129337DB) * 0x4F74430C22A54005)

theorem unmix_mix (h : UInt64) : unmix (mix h) = h := by
  have hsecond : (0xC4CEB9FE1A85EC53 : UInt64) * 0x9CB4B2F8129337DB = 1 := by decide
  have hfirst : (0xFF51AFD7ED558CCD : UInt64) * 0x4F74430C22A54005 = 1 := by decide
  rw [unmix, mix_eq, foldUpper_involutive, UInt64.mul_assoc, hsecond, UInt64.mul_one,
    foldUpper_involutive, UInt64.mul_assoc, hfirst, UInt64.mul_one, foldUpper_involutive]

theorem mix_unmix (h : UInt64) : mix (unmix h) = h := by
  have hfirst : (0x4F74430C22A54005 : UInt64) * 0xFF51AFD7ED558CCD = 1 := by decide
  have hsecond : (0x9CB4B2F8129337DB : UInt64) * 0xC4CEB9FE1A85EC53 = 1 := by decide
  rw [unmix, mix_eq, foldUpper_involutive, UInt64.mul_assoc, hfirst, UInt64.mul_one,
    foldUpper_involutive, UInt64.mul_assoc, hsecond, UInt64.mul_one, foldUpper_involutive]

theorem mix_bijective : Bijective mix :=
  bijective_iff_has_inverse.mpr ⟨unmix, unmix_mix, mix_unmix⟩

/-! ## Absorbing -/

/-- An axis loses nothing of a coordinate, its multiplier being odd. -/
theorem absorb_bijective {m n : UInt64} (h : m * n = 1) (state : UInt64) :
    Bijective (absorb state · m) :=
  mix_bijective.comp ((xor_bijective state).comp ((mul_bijective h).comp toUInt64_bijective))

/-- A coordinate loses nothing of what has been absorbed before it. -/
theorem absorb_state_bijective (coordinate : Int64) (m : UInt64) :
    Bijective (absorb · coordinate m) :=
  mix_bijective.comp (xor_right_bijective (coordinate.toUInt64 * m))

theorem xMultiplier_inverse : xMultiplier * 0xF1DE83E19937733D = 1 := by decide

theorem yMultiplier_inverse : yMultiplier * 0x0BA79078168D4BAF = 1 := by decide

theorem zMultiplier_inverse : zMultiplier * 0xE9E9F4C41D6DF849 = 1 := by decide

/-! ## Bits of a point -/

section Plane

variable (seed : UInt64) (x z : Int64)

theorem bits2_bijective_x : Bijective (bits2 seed · z) :=
  (absorb_state_bijective z zMultiplier).comp (absorb_bijective xMultiplier_inverse _)

theorem bits2_bijective_z : Bijective (bits2 seed x ·) :=
  absorb_bijective zMultiplier_inverse _

theorem bits2_bijective_seed : Bijective (bits2 · x z) := by
  have hstart : Bijective fun seed : UInt64 => mix (seed ^^^ planeTag) :=
    mix_bijective.comp (xor_right_bijective planeTag)
  exact (absorb_state_bijective z zMultiplier).comp
    ((absorb_state_bijective x xMultiplier).comp hstart)

end Plane

section Space

variable (seed : UInt64) (x y z : Int64)

theorem bits3_bijective_x : Bijective (bits3 seed · y z) :=
  (absorb_state_bijective z zMultiplier).comp
    ((absorb_state_bijective y yMultiplier).comp (absorb_bijective xMultiplier_inverse _))

theorem bits3_bijective_y : Bijective (bits3 seed x · z) :=
  (absorb_state_bijective z zMultiplier).comp (absorb_bijective yMultiplier_inverse _)

theorem bits3_bijective_z : Bijective (bits3 seed x y ·) :=
  absorb_bijective zMultiplier_inverse _

theorem bits3_bijective_seed : Bijective (bits3 · x y z) := by
  have hstart : Bijective fun seed : UInt64 => mix (seed + zMultiplier) :=
    mix_bijective.comp (add_right_bijective zMultiplier)
  exact (absorb_state_bijective z zMultiplier).comp
    ((absorb_state_bijective y yMultiplier).comp
      ((absorb_state_bijective x xMultiplier).comp hstart))

end Space

/-! ## Points and seeds apart -/

/-- In how many coordinates two points differ. -/
def differences (p q : List Int64) : Nat := (p.zip q).countP fun (a, b) => a != b

section Apart

variable {x y z x' y' z' : Int64} (seed : UInt64)

theorem bits2_ne (h : differences [x, z] [x', z'] = 1) : bits2 seed x z ≠ bits2 seed x' z' := by
  have hwhich : x ≠ x' ∧ z = z' ∨ x = x' ∧ z ≠ z' := by
    by_cases hx : x = x' <;> by_cases hz : z = z' <;> simp_all [differences]
  rcases hwhich with ⟨hx, rfl⟩ | ⟨rfl, hz⟩
  · exact (bits2_bijective_x seed z).injective.ne hx
  · exact (bits2_bijective_z seed x).injective.ne hz

theorem bits3_ne (h : differences [x, y, z] [x', y', z'] = 1) :
    bits3 seed x y z ≠ bits3 seed x' y' z' := by
  have hwhich : x ≠ x' ∧ y = y' ∧ z = z' ∨ x = x' ∧ y ≠ y' ∧ z = z' ∨
      x = x' ∧ y = y' ∧ z ≠ z' := by
    by_cases hx : x = x' <;> by_cases hy : y = y' <;> by_cases hz : z = z' <;>
      simp_all [differences]
  rcases hwhich with ⟨hx, rfl, rfl⟩ | ⟨rfl, hy, rfl⟩ | ⟨rfl, rfl, hz⟩
  · exact (bits3_bijective_x seed y z).injective.ne hx
  · exact (bits3_bijective_y seed x z).injective.ne hy
  · exact (bits3_bijective_z seed x y).injective.ne hz

end Apart

/-- Every word is the mix of exactly one word. The bits of a point take every value exactly once
while one coordinate, or the seed, runs through all its values. So two points that differ in one
coordinate have different bits under a seed, and under two seeds every point has different bits. -/
theorem mix_and_bits_bijective :
    Bijective mix ∧
      ((∀ seed z, Bijective fun x => bits2 seed x z) ∧
        (∀ seed x, Bijective fun z => bits2 seed x z) ∧
        ∀ x z, Bijective fun seed => bits2 seed x z) ∧
      ((∀ seed y z, Bijective fun x => bits3 seed x y z) ∧
        (∀ seed x z, Bijective fun y => bits3 seed x y z) ∧
        (∀ seed x y, Bijective fun z => bits3 seed x y z) ∧
        ∀ x y z, Bijective fun seed => bits3 seed x y z) ∧
      (∀ seed x z x' z', differences [x, z] [x', z'] = 1 →
        bits2 seed x z ≠ bits2 seed x' z') ∧
      (∀ seed x y z x' y' z', differences [x, y, z] [x', y', z'] = 1 →
        bits3 seed x y z ≠ bits3 seed x' y' z') ∧
      ∀ seed seed', seed ≠ seed' → ∀ x y z,
        bits2 seed x z ≠ bits2 seed' x z ∧ bits3 seed x y z ≠ bits3 seed' x y z := by
  refine ⟨mix_bijective, ⟨bits2_bijective_x, bits2_bijective_z, bits2_bijective_seed⟩,
    ⟨bits3_bijective_x, bits3_bijective_y, bits3_bijective_z, bits3_bijective_seed⟩,
    fun seed _ _ _ _ hone => bits2_ne seed hone,
    fun seed _ _ _ _ _ _ hone => bits3_ne seed hone, ?_⟩
  intro seed seed' hne x y z
  exact ⟨(bits2_bijective_seed x z).injective.ne hne,
    (bits3_bijective_seed x y z).injective.ne hne⟩

/-- The two ends of the lattice along an axis, and the first and the last seed. -/
theorem bits_apart_at_ends :
    (differences [Int64.minValue, 5] [Int64.maxValue, 5] = 1 ∧
        differences [0, Int64.minValue, -1] [0, Int64.maxValue, -1] = 1 ∧
        (0 : UInt64) ≠ 0xFFFFFFFFFFFFFFFF) ∧
      bits2 7 Int64.minValue 5 ≠ bits2 7 Int64.maxValue 5 ∧
      bits3 7 0 Int64.minValue (-1) ≠ bits3 7 0 Int64.maxValue (-1) ∧
      bits3 0 3 4 5 ≠ bits3 0xFFFFFFFFFFFFFFFF 3 4 5 := by
  have hplane : differences [Int64.minValue, 5] [Int64.maxValue, 5] = 1 := by decide
  have hspace : differences [0, Int64.minValue, -1] [0, Int64.maxValue, -1] = 1 := by decide
  have hseed : (0 : UInt64) ≠ 0xFFFFFFFFFFFFFFFF := by decide
  obtain ⟨-, -, -, hne2, hne3, hseeds⟩ := mix_and_bits_bijective
  exact ⟨⟨hplane, hspace, hseed⟩, hne2 _ _ _ _ _ hplane, hne3 _ _ _ _ _ _ _ hspace,
    (hseeds _ _ hseed 3 4 5).2⟩

end Landform.Lattice
