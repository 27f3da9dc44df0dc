import Landform.Proofs.Chunk.Checksum
import Mathlib.Algebra.BigOperators.Fin
import Mathlib.Data.Nat.ModEq

/-! # Checksums as polynomials

A checksum is the value of a polynomial at 31, modulo `2 ^ 32`: the checksum of the key is its
leading coefficient, and the bytes are the others. So bytes that make two checksums meet under one
key do so under every key, and the change of one coefficient shows. The step from a seed to the next
one shows as well, although it can change two words of the key at once. -/

namespace Landform.Checksum

/-! ## Coefficients -/

/-- The value at 31 of the polynomial whose coefficients are the bytes, the leading one first. -/
def valueOf (bytes : List UInt8) : Nat :=
  ∑ i : Fin bytes.length, bytes[i].toNat * 31 ^ (bytes.length - 1 - i)

theorem valueOf_nil : valueOf [] = 0 := rfl

theorem valueOf_cons (b : UInt8) (bytes : List UInt8) :
    valueOf (b :: bytes) = b.toNat * 31 ^ bytes.length + valueOf bytes := by
  unfold valueOf
  change ∑ i : Fin (bytes.length + 1), _ = _
  rw [Fin.sum_univ_succ]
  congr 1
  refine Finset.sum_congr rfl fun i _ => ?_
  have hpower : (b :: bytes).length - 1 - (i.succ : Nat) = bytes.length - 1 - i := by
    rw [List.length_cons, Fin.val_succ]
    omega
  rw [hpower]
  rfl

theorem toNat_fold (h w : UInt32) : (fold h w).toNat ≡ h.toNat * 31 + w.toNat [MOD 2 ^ 32] := by
  rw [fold, UInt32.toNat_add, UInt32.toNat_mul]
  exact (Nat.mod_modEq _ _).trans (Nat.ModEq.add_right _ (Nat.mod_modEq _ _))

/-- What is there before the bytes is the coefficient in front of them. -/
theorem toNat_foldl_fold (bytes : List UInt8) (start : UInt32) :
    (bytes.foldl (fun h b => fold h b.toUInt32) start).toNat ≡
      start.toNat * 31 ^ bytes.length + valueOf bytes [MOD 2 ^ 32] := by
  induction bytes generalizing start with
  | nil =>
    rw [List.foldl_nil, List.length_nil, pow_zero, mul_one, valueOf_nil]
    rfl
  | cons b bytes ih =>
    have hstep : (fold start b.toUInt32).toNat ≡ start.toNat * 31 + b.toNat [MOD 2 ^ 32] :=
      toNat_fold start b.toUInt32
    rw [List.foldl_cons, valueOf_cons, List.length_cons]
    calc (bytes.foldl (fun h b => fold h b.toUInt32) (fold start b.toUInt32)).toNat
      _ ≡ (fold start b.toUInt32).toNat * 31 ^ bytes.length + valueOf bytes [MOD 2 ^ 32] := ih _
      _ ≡ (start.toNat * 31 + b.toNat) * 31 ^ bytes.length + valueOf bytes [MOD 2 ^ 32] :=
        (hstep.mul_right _).add_right _
      _ = _ := by ring

theorem toNat_ofBytes (k : ChunkKey) (bytes : List UInt8) :
    (ofBytes k bytes).toNat =
      ((ofKey k).toNat * 31 ^ bytes.length + valueOf bytes) % 2 ^ 32 := by
  have hmod := toNat_foldl_fold bytes (ofKey k)
  rwa [Nat.ModEq, Nat.mod_eq_of_lt (UInt32.toNat_lt _)] at hmod

/-- Which bytes of one length have the same checksum is the same under all keys. -/
theorem ofBytes_eq_iff_valueOf (k : ChunkKey) {bytes bytes' : List UInt8}
    (hlen : bytes.length = bytes'.length) :
    ofBytes k bytes = ofBytes k bytes' ↔ valueOf bytes ≡ valueOf bytes' [MOD 2 ^ 32] := by
  rw [← UInt32.toNat_inj, toNat_ofBytes, toNat_ofBytes, hlen]
  exact ⟨Nat.ModEq.add_left_cancel' _, Nat.ModEq.add_left _⟩

/-! ## Single changes -/

theorem toUInt32_injective : Function.Injective UInt8.toUInt32 := by
  intro b b' h
  rw [← UInt8.toUInt8_toUInt32 b, h, UInt8.toUInt8_toUInt32]

theorem ofBytes_set_ne (k : ChunkKey) {bytes : List UInt8} {i : Nat} (hi : i < bytes.length)
    {b : UInt8} (hb : b ≠ bytes[i]) : ofBytes k (bytes.set i b) ≠ ofBytes k bytes := by
  rw [ofBytes_eq_foldl, ofBytes_eq_foldl]
  refine foldl_fold_ne (ofKey k) ?_ ?_ (i := i) ?_
  · rw [List.length_map, List.length_map, List.length_set]
  · intro heq
    have hset : bytes.set i b = bytes := List.map_injective_iff.mpr toUInt32_injective heq
    have hplace : (bytes.set i b)[i]? = some b := List.getElem?_set_self hi
    rw [hset, List.getElem?_eq_getElem hi] at hplace
    exact hb (Option.some.inj hplace).symm
  · intro j hj
    rw [List.getElem?_map, List.getElem?_map, List.getElem?_set_ne hj.symm]

theorem ofBytes_ne_of_set {k l : ChunkKey} {place : Nat} {w : UInt32}
    (hwords : keyWords l = (keyWords k).set place w) (hne : l ≠ k) (bytes : List UInt8) :
    ofBytes l bytes ≠ ofBytes k bytes := by
  have halike : AlikeBut place l k := by
    intro i hi
    rw [hwords, List.getElem?_set_ne hi.symm]
  exact fun heq => hne (eq_of_alikeBut halike ((ofBytes_eq_iff bytes).mp heq))

/-- The words of the next seed: the lower one counts on, and the upper one does so at a carry. -/
theorem words_next_seed (seed : UInt64) :
    (seed + 1).toUInt32 = seed.toUInt32 + 1 ∧
      (((seed + 1) >>> 32).toUInt32 = (seed >>> 32).toUInt32 ∨
        ((seed + 1) >>> 32).toUInt32 = (seed >>> 32).toUInt32 + 1) := by
  have hlt := seed.toNat_lt
  have hone : (1 : UInt64).toNat = 1 := rfl
  have hone' : (1 : UInt32).toNat = 1 := rfl
  simp only [← UInt32.toNat_inj, UInt64.toNat_toUInt32, UInt32.toNat_add, toNat_high,
    UInt64.toNat_add, hone, hone']
  omega

/-- Without a carry the seed counts 31 more, and with one 32. -/
theorem ofKey_next_seed_ne (k : ChunkKey) : ofKey { k with seed := k.seed + 1 } ≠ ofKey k := by
  obtain ⟨hlow, hhigh⟩ := words_next_seed k.seed
  intro heq
  -- the dimension comes last and is the same, so the checksums meet already after the seed
  simp only [ofKey, keyWords, List.foldl_cons, List.foldl_nil, fold_left_inj, hlow] at heq
  unfold fold at heq
  rcases hhigh with hsame | hcarry
  · rw [hsame] at heq
    grind
  · rw [hcarry] at heq
    grind

/-! ## Checksums of bytes -/

/-- The checksum of a key with bytes is that of the key times a power of 31, and every byte times
the power of 31 that belongs to its place, modulo `2 ^ 32`. It changes when one byte is replaced by
a different one, when one word of the key is, and from a seed to the next. Whether bytes of one
length have the same checksum does not depend on the key. -/
theorem ofBytes_eq_polynomial (k : ChunkKey) (bytes : List UInt8) :
    (ofBytes k bytes).toNat =
        ((ofKey k).toNat * 31 ^ bytes.length +
          ∑ i : Fin bytes.length, bytes[i].toNat * 31 ^ (bytes.length - 1 - i)) % 2 ^ 32 ∧
      (∀ (i : Fin bytes.length) (b : UInt8), b ≠ bytes[i] →
        ofBytes k (bytes.set i b) ≠ ofBytes k bytes) ∧
      (∀ (l : ChunkKey) (place : Nat) (w : UInt32), keyWords l = (keyWords k).set place w → l ≠ k →
        ofBytes l bytes ≠ ofBytes k bytes) ∧
      ofBytes { k with seed := k.seed + 1 } bytes ≠ ofBytes k bytes ∧
      ∀ (l : ChunkKey) (bytes' : List UInt8), bytes.length = bytes'.length →
        (ofBytes k bytes = ofBytes k bytes' ↔ ofBytes l bytes = ofBytes l bytes') := by
  refine ⟨toNat_ofBytes k bytes, ?_, ?_, ?_, ?_⟩
  · intro i b hb
    exact ofBytes_set_ne k i.isLt hb
  · intro l place w hwords hne
    exact ofBytes_ne_of_set hwords hne bytes
  · intro heq
    exact ofKey_next_seed_ne k ((ofBytes_eq_iff bytes).mp heq)
  · intro l bytes' hlen
    rw [ofBytes_eq_iff_valueOf k hlen, ofBytes_eq_iff_valueOf l hlen]

/-- At this seed the lower word starts again at zero. The first byte counts 31 times as much as the
second, so these bytes and the others have the same value. -/
theorem ofBytes_at_carry :
    let k : ChunkKey := ⟨7, -2, 0xFFFFFFFF, .nether⟩
    let l : ChunkKey := ⟨7, 5, 0xFFFFFFFF, .nether⟩
    let bytes : List UInt8 := [2, 0, 4]
    ((1 : UInt8) ≠ bytes[1] ∧ keyWords l = (keyWords k).set 1 5 ∧ l ≠ k ∧
        bytes.length = [1, 31, 4].length) ∧
      (ofBytes k bytes).toNat = ((ofKey k).toNat * 31 ^ 3 + 1926) % 2 ^ 32 ∧
      ofBytes k [2, 1, 4] ≠ ofBytes k bytes ∧ ofBytes l bytes ≠ ofBytes k bytes ∧
      ofBytes ⟨7, -2, 0x100000000, .nether⟩ bytes ≠ ofBytes k bytes ∧
      (ofBytes k bytes = ofBytes k [1, 31, 4] ↔ ofBytes l bytes = ofBytes l [1, 31, 4]) := by
  intro k l bytes
  have hbyte : (1 : UInt8) ≠ bytes[1] := by decide
  have hwords : keyWords l = (keyWords k).set 1 5 := by decide
  have hne : l ≠ k := by decide
  have hsum : ∑ i : Fin bytes.length, bytes[i].toNat * 31 ^ (bytes.length - 1 - i) = 1926 := by
    decide
  obtain ⟨hvalue, hset, hword, hseed, hkey⟩ := ofBytes_eq_polynomial k bytes
  rw [hsum] at hvalue
  exact ⟨⟨hbyte, hwords, hne, rfl⟩, hvalue, hset ⟨1, by decide⟩ 1 hbyte, hword l 1 5 hwords hne,
    hseed, hkey l [1, 31, 4] rfl⟩

end Landform.Checksum
