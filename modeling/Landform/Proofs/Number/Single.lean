import Landform.Proofs.Number.Value

/-! # Narrowing to single precision

A finite double becomes a finite single precision number unless its magnitude is at least half way
from the largest of these to the next power of two. From there on it becomes infinite. It never
becomes undefined. -/

namespace Landform

open Float.Model Float.Model.UnpackedFloat

/-! ## Single precision numbers by their bits -/

section Bits

variable (b : BitVec 32)

theorem toNat_unpackExponent_single :
    (@unpackExponent Format.binary32 b).toNat = b.toNat / 2 ^ 23 % 2 ^ 8 := by
  simp [unpackExponent, Nat.shiftRight_eq_div_pow]

/-- Without the exponent of all ones the bits are those of a finite number. -/
theorem isFinite_unpack_single (h : @unpackExponent Format.binary32 b ≠ -1#8) :
    (UnpackedFloat.unpack Format.binary32 b).isFinite = true := by
  simp only [UnpackedFloat.unpack]
  rw [if_neg h]
  split
  · split <;> rfl
  · rfl

/-- Packing a number that fits does not make it infinite. -/
theorem isFinite_unpack_pack_single {s : Sign} {m : ℕ} {q : ℤ} (hpos : 0 < m) (hq : q ≤ 104) :
    (UnpackedFloat.unpack Format.binary32
      (UnpackedFloat.pack Format.binary32 (.finite s m q hpos))).isFinite = true := by
  apply isFinite_unpack_single
  have hexponent : (q + (Format.exponentBias .binary32 : ℕ) + (23 : ℕ)).toNat =
      (q + 150).toNat := by
    norm_num [Format.exponentBias]
    omega
  simp only [UnpackedFloat.pack, hexponent]
  rw [if_neg (by norm_num; omega)]
  split
  · rw [unpackExponent_packComponents]
    intro heq
    have htoNat := congrArg BitVec.toNat heq
    rw [BitVec.toNat_ofNat] at htoNat
    change _ = 255 at htoNat
    omega
  · rw [unpackExponent_packComponents]
    decide

theorem exponent_le_of_unpack_single {s : Sign} {m : ℕ} {q : ℤ} {hpos : 0 < m}
    (h : UnpackedFloat.unpack Format.binary32 b = .finite s m q hpos) : q ≤ 104 := by
  have hbias : ((Format.exponentBias .binary32 : ℕ) : ℤ) = 127 := rfl
  have hlt : (@unpackExponent Format.binary32 b).toNat < 2 ^ 8 :=
    (@unpackExponent Format.binary32 b).isLt
  simp only [UnpackedFloat.unpack, hbias] at h
  split at h
  · split at h <;> cases h
  · rename_i hmax
    have hne : (@unpackExponent Format.binary32 b).toNat ≠ 255 :=
      fun heq => hmax (BitVec.eq_of_toNat_eq heq)
    split at h
    · rename_i hzero
      split at h <;> cases h
      rw [hzero]
      decide
    · cases h
      omega

/-- Bits without the exponent of all ones make a finite number. -/
theorem isFinite_ofBits {w : UInt32} (h : w.toNat / 2 ^ 23 % 2 ^ 8 ≠ 255) :
    (Float32.ofBits w).isFinite = true := by
  have hexponent : @unpackExponent Format.binary32 w.toBitVec ≠ -1#8 := by
    intro heq
    have htoNat := congrArg BitVec.toNat heq
    rw [toNat_unpackExponent_single] at htoNat
    exact h htoNat
  have hfinite := isFinite_unpack_single _ hexponent
  change (UnpackedFloat.unpack Format.binary32 (UnpackedFloat.pack Format.binary32
    (UnpackedFloat.unpack Format.binary32 w.toBitVec))).isFinite = true
  cases hu : UnpackedFloat.unpack Format.binary32 w.toBitVec with
  | notANumber | infinity s =>
    rw [hu] at hfinite
    cases hfinite
  | zero s => cases s <;> rfl
  | finite s m q hpos =>
    exact isFinite_unpack_pack_single hpos (exponent_le_of_unpack_single _ hu)

theorem isNaN_of_isFinite_single {y : Float32} (h : y.isFinite = true) : y.isNaN = false := by
  have hfinite : y.toModel.unpack.isFinite = true := h
  change y.toModel.unpack.isNaN = false
  cases hy : y.toModel.unpack with
  | notANumber =>
    rw [hy] at hfinite
    cases hfinite
  | _ => rfl

/-- The bits of infinity. -/
theorem ofBits_infinity {w : UInt32} (h : w = 0x7F800000 ∨ w = 0xFF800000) :
    (Float32.ofBits w).isFinite = false ∧ (Float32.ofBits w).isNaN = false := by
  rcases h with rfl | rfl <;> decide +kernel

end Bits

namespace Double

/-! ## Rounding off bits -/

section RoundShift

variable {m n : UInt64}

theorem toNat_kept (hn : n.toNat < 64) : (m >>> n).toNat = m.toNat / 2 ^ n.toNat := by
  rw [UInt64.toNat_shiftRight, Nat.mod_eq_of_lt hn, Nat.shiftRight_eq_div_pow]

/-- Dropping bits rounds to one of the neighbours. -/
theorem roundShift_cases (m n : UInt64) :
    roundShift m n = m >>> n ∨ roundShift m n = (m >>> n) + 1 := by
  unfold roundShift
  dsimp only
  split
  · exact .inr rfl
  · exact .inl rfl

theorem toNat_roundShift_le (hm : m.toNat < 2 ^ 53) (hn : n.toNat < 64) :
    (roundShift m n).toNat ≤ m.toNat / 2 ^ n.toNat + 1 := by
  have hkept := toNat_kept (m := m) hn
  have hle : m.toNat / 2 ^ n.toNat ≤ m.toNat := Nat.div_le_self ..
  rcases roundShift_cases m n with h | h <;> rw [h]
  · omega
  · rw [UInt64.toNat_add]
    have hone : (1 : UInt64).toNat = 1 := rfl
    omega

/-- Of the mantissas with 53 bits the largest are rounded up to one bit more. -/
theorem roundShift_carries_iff (hm : m.toNat < 2 ^ 53) :
    (roundShift m 29).toNat = 2 ^ 24 ↔ 2 ^ 53 - 2 ^ 28 ≤ m.toNat := by
  have hkept : (m >>> 29).toNat = m.toNat / 2 ^ 29 := toNat_kept (n := 29) (by decide)
  have hback : (m >>> 29 <<< 29).toNat = m.toNat / 2 ^ 29 * 2 ^ 29 := by
    have hbits : (29 : UInt64).toNat % 64 = 29 := rfl
    rw [UInt64.toNat_shiftLeft, hkept, hbits, Nat.shiftLeft_eq]
    omega
  have hlost : (m - (m >>> 29 <<< 29)).toNat = m.toNat % 2 ^ 29 := by
    rw [UInt64.toNat_sub_of_le _ _ (UInt64.le_iff_toNat_le.mpr (by omega)), hback]
    omega
  have hodd : ((m >>> 29) &&& 1).toNat = m.toNat / 2 ^ 29 % 2 := by
    rw [UInt64.toNat_and, hkept]
    exact Nat.and_one_is_mod _
  have hhalf : ((1 : UInt64) <<< (29 - 1)).toNat = 2 ^ 28 := rfl
  have hone : (1 : UInt64).toNat = 1 := rfl
  have hup : ((m - (m >>> 29 <<< 29) > (1 : UInt64) <<< (29 - 1) ||
      (m - (m >>> 29 <<< 29) == (1 : UInt64) <<< (29 - 1) && (m >>> 29) &&& 1 == 1)) = true) ↔
      2 ^ 28 < m.toNat % 2 ^ 29 ∨ m.toNat % 2 ^ 29 = 2 ^ 28 ∧ m.toNat / 2 ^ 29 % 2 = 1 := by
    rw [Bool.or_eq_true, Bool.and_eq_true, decide_eq_true_iff, beq_iff_eq, beq_iff_eq, gt_iff_lt,
      UInt64.lt_iff_toNat_lt, ← UInt64.toNat_inj, ← UInt64.toNat_inj, hlost, hodd, hhalf, hone]
  unfold roundShift
  dsimp only
  split
  · rename_i hround
    rw [hup] at hround
    rw [UInt64.toNat_add, hkept, hone]
    omega
  · rename_i hround
    rw [hup] at hround
    rw [hkept]
    omega

end RoundShift

/-! ## Narrowing -/

/-- The bits that a finite double is narrowed to, without the sign, from its exponent and its
fraction. -/
def singleMagnitude (exponent fraction : UInt64) : UInt64 :=
  if exponent == 0x7FF then
    if fraction == 0 then 0x7F800000 else 0x7FC00000
  else if exponent > 1150 then 0x7F800000
  else if exponent > 896 then
    ((exponent - 897) <<< 23) + roundShift (fraction ||| 0x10000000000000) 29
  else if exponent > 871 then
    roundShift (fraction ||| 0x10000000000000) (926 - exponent)
  else 0

theorem toSingle_eq (x : Float) :
    toSingle x = .ofBits ((x.toBits >>> 63 <<< 31).toUInt32 |||
      (singleMagnitude (x.toBits >>> 52 &&& 0x7FF) (x.toBits &&& 0xFFFFFFFFFFFFF)).toUInt32) := rfl

/-- The leading bit of a mantissa stands above its fraction. -/
theorem toNat_withLeadingBit {fraction : UInt64} (h : fraction.toNat < 2 ^ 52) :
    (fraction ||| 0x10000000000000).toNat = 2 ^ 52 + fraction.toNat := by
  have hor := Nat.two_pow_add_eq_or_of_lt h 1
  rw [mul_one] at hor
  rw [UInt64.toNat_or, Nat.or_comm, hor]
  rfl

/-- The magnitude is that of a finite number unless the exponent is too great, or the greatest one
and the mantissa carries over. Then it is that of infinity. -/
theorem toNat_singleMagnitude {exponent fraction : UInt64} (he : exponent.toNat < 2047)
    (hf : fraction.toNat < 2 ^ 52) :
    (singleMagnitude exponent fraction).toNat ≤ 255 * 2 ^ 23 ∧
      ((singleMagnitude exponent fraction).toNat = 255 * 2 ^ 23 ↔
        1150 < exponent.toNat ∨
          exponent.toNat = 1150 ∧ 2 ^ 53 - 2 ^ 28 ≤ 2 ^ 52 + fraction.toNat) := by
  have hmantissa := toNat_withLeadingBit hf
  have hmax : (exponent == 0x7FF) = false := by
    refine beq_eq_false_iff_ne.mpr fun h => ?_
    rw [h] at he
    exact absurd he (by decide)
  have htop : exponent > 1150 ↔ 1150 < exponent.toNat := UInt64.lt_iff_toNat_lt
  have hnormal : exponent > 896 ↔ 896 < exponent.toNat := UInt64.lt_iff_toNat_lt
  have hsubnormal : exponent > 871 ↔ 871 < exponent.toNat := UInt64.lt_iff_toNat_lt
  unfold singleMagnitude
  rw [hmax, if_neg Bool.false_ne_true]
  generalize fraction ||| 0x10000000000000 = mantissa at hmantissa ⊢
  by_cases h₁ : exponent > 1150
  · rw [if_pos h₁]
    exact ⟨le_rfl, iff_of_true rfl (.inl (htop.mp h₁))⟩
  rw [if_neg h₁]
  rw [htop] at h₁
  by_cases h₂ : exponent > 896
  · rw [if_pos h₂]
    rw [hnormal] at h₂
    have hround := toNat_roundShift_le (m := mantissa) (n := 29) (by omega) (by decide)
    have hcarries := roundShift_carries_iff (m := mantissa) (by omega)
    have hbits : (29 : UInt64).toNat = 29 := rfl
    rw [hbits] at hround
    have hshift : ((exponent - 897) <<< 23).toNat = (exponent.toNat - 897) * 2 ^ 23 := by
      have hplaces : (23 : UInt64).toNat % 64 = 23 := rfl
      rw [UInt64.toNat_shiftLeft, UInt64.toNat_sub_of_le, hplaces, Nat.shiftLeft_eq]
      · change (exponent.toNat - 897) * 2 ^ 23 % 2 ^ 64 = _
        omega
      · exact UInt64.le_iff_toNat_le.mpr h₂
    rw [UInt64.toNat_add, hshift]
    omega
  rw [if_neg h₂]
  rw [hnormal] at h₂
  by_cases h₃ : exponent > 871
  · rw [if_pos h₃]
    rw [hsubnormal] at h₃
    have hplaces : (926 - exponent).toNat = 926 - exponent.toNat := by
      rw [UInt64.toNat_sub_of_le]
      · rfl
      · exact UInt64.le_iff_toNat_le.mpr (by change exponent.toNat ≤ 926; omega)
    have hround := toNat_roundShift_le (m := mantissa) (n := 926 - exponent) (by omega) (by omega)
    -- at least thirty of the bits are dropped
    have hdropped : mantissa.toNat / 2 ^ (926 - exponent).toNat ≤ mantissa.toNat / 2 ^ 30 :=
      Nat.div_le_div_left (Nat.pow_le_pow_right (by norm_num) (by omega)) (by norm_num)
    omega
  · rw [if_neg h₃]
    have hzero : (0 : UInt64).toNat = 0 := rfl
    omega

/-- A finite double is narrowed to a finite number unless its exponent is too great, or the greatest
one and its mantissa carries over. -/
theorem isFinite_toSingle_of_bits {x : Float} {sign n : ℕ} (hsign : sign < 2)
    (hbits : x.toBits.toNat = sign * 2 ^ 63 + n) (hn : n < 2047 * 2 ^ 52) :
    (toSingle x).isNaN = false ∧
      ((toSingle x).isFinite = false ↔
        1150 < n / 2 ^ 52 ∨ n / 2 ^ 52 = 1150 ∧ 2 ^ 53 - 2 ^ 28 ≤ 2 ^ 52 + n % 2 ^ 52) := by
  have hexponent : (x.toBits >>> 52 &&& 0x7FF).toNat = n / 2 ^ 52 := by
    rw [UInt64.toNat_and, UInt64.toNat_shiftRight]
    change x.toBits.toNat >>> 52 &&& 2 ^ 11 - 1 = _
    rw [Nat.and_two_pow_sub_one_eq_mod, Nat.shiftRight_eq_div_pow, hbits]
    omega
  have hfraction : (x.toBits &&& 0xFFFFFFFFFFFFF).toNat = n % 2 ^ 52 := by
    rw [UInt64.toNat_and]
    change x.toBits.toNat &&& 2 ^ 52 - 1 = _
    rw [Nat.and_two_pow_sub_one_eq_mod, hbits]
    omega
  have hsignBit : (x.toBits >>> 63 <<< 31).toUInt32.toNat = sign * 2 ^ 31 := by
    rw [UInt64.toNat_toUInt32, UInt64.toNat_shiftLeft, UInt64.toNat_shiftRight]
    change (x.toBits.toNat >>> 63) <<< 31 % 2 ^ 64 % 2 ^ 32 = _
    rw [Nat.shiftRight_eq_div_pow, Nat.shiftLeft_eq, hbits]
    omega
  obtain ⟨hle, hiff⟩ := @toNat_singleMagnitude (x.toBits >>> 52 &&& 0x7FF)
    (x.toBits &&& 0xFFFFFFFFFFFFF) (by omega) (by omega)
  rw [hexponent, hfraction] at hiff
  rw [toSingle_eq]
  generalize singleMagnitude (x.toBits >>> 52 &&& 0x7FF) (x.toBits &&& 0xFFFFFFFFFFFFF) =
    magnitude at hle hiff ⊢
  generalize (x.toBits >>> 63 <<< 31).toUInt32 = signBit at hsignBit ⊢
  have hword : (signBit ||| magnitude.toUInt32).toNat = sign * 2 ^ 31 + magnitude.toNat := by
    have hlow : magnitude.toNat % 2 ^ 32 = magnitude.toNat := by omega
    rw [UInt32.toNat_or, UInt64.toNat_toUInt32, hlow, hsignBit, ← Nat.shiftLeft_eq,
      Nat.shiftLeft_add_eq_or_of_lt (by omega)]
  rw [← hiff]
  by_cases htop : magnitude.toNat = 255 * 2 ^ 23
  · have hinfinity : signBit ||| magnitude.toUInt32 = 0x7F800000 ∨
        signBit ||| magnitude.toUInt32 = 0xFF800000 := by
      rw [← UInt32.toNat_inj, ← UInt32.toNat_inj, hword, htop]
      change _ = 255 * 2 ^ 23 ∨ _ = 2 ^ 31 + 255 * 2 ^ 23
      omega
    obtain ⟨hfinite, hnan⟩ := ofBits_infinity hinfinity
    exact ⟨hnan, iff_of_true hfinite htop⟩
  · have hfinite : (Float32.ofBits (signBit ||| magnitude.toUInt32)).isFinite = true :=
      isFinite_ofBits (by omega)
    exact ⟨isNaN_of_isFinite_single hfinite,
      iff_of_false (by rw [hfinite]; exact Bool.false_ne_true.symm) htop⟩

/-- Half way from the largest finite single precision number to the next power of two. -/
def singleLimit : ℚ := 2 ^ 128 - 2 ^ 103

theorem canonical_singleLimit : Canonical (2 ^ 53 - 2 ^ 28) 75 :=
  ⟨by norm_num, by norm_num, by norm_num, by norm_num, .inl (by norm_num)⟩

/-- The limit is told by the exponent first and the mantissa second. -/
theorem singleLimit_le_iff {m : ℕ} {q : ℤ} (h : Canonical m q) :
    singleLimit ≤ m * 2 ^ q ↔ 75 < q ∨ q = 75 ∧ 2 ^ 53 - 2 ^ 28 ≤ m := by
  have hlimit : singleLimit = ((2 ^ 53 - 2 ^ 28 : ℕ) : ℚ) * 2 ^ (75 : ℤ) := by
    unfold singleLimit
    norm_num
  rw [hlimit]
  rcases lt_trichotomy q 75 with hq | rfl | hq
  · exact iff_of_false (not_le.mpr (h.value_lt_of_exponent canonical_singleLimit hq)) (by omega)
  · rw [mul_le_mul_iff_of_pos_right (by positivity), Nat.cast_le]
    omega
  · exact iff_of_true (canonical_singleLimit.value_lt_of_exponent h hq).le (.inl hq)

/-- A finite double is narrowed to infinity exactly if its magnitude reaches the limit, and to a
finite number otherwise. -/
theorem isFinite_toSingle {x : Float} (h : x.isFinite = true) :
    (toSingle x).isNaN = false ∧ ((toSingle x).isFinite = false ↔ singleLimit ≤ |value x|) := by
  obtain ⟨s, hx⟩ | ⟨s, m, q, hc, hx⟩ := unpack_cases h
  · have hzero : x.toBits.toNat = s.toBitVec.toNat * 2 ^ 63 + 0 := by
      rw [← ofModel_pack_unpack x, hx]
      cases s <;> rfl
    have hvalue : |value x| = 0 := by
      unfold value
      rw [hx]
      exact abs_zero
    obtain ⟨hnan, hiff⟩ := isFinite_toSingle_of_bits s.toBitVec.isLt hzero (by norm_num)
    refine ⟨hnan, hiff.trans (iff_of_false (by norm_num) ?_)⟩
    rw [hvalue, singleLimit]
    norm_num
  · obtain ⟨n, hn, hbits⟩ := hc.toNat_toBits s
    have hfloat : hc.float s = x := by
      rw [← ofModel_pack_unpack x, hx]
      rfl
    have hvalue : |value x| = m * 2 ^ q := by
      unfold value
      rw [hx, abs_unpackedValue]
    rw [hfloat] at hbits
    obtain ⟨hnan, hiff⟩ := isFinite_toSingle_of_bits s.toBitVec.isLt hbits hn.lt
    refine ⟨hnan, hiff.trans ?_⟩
    rw [hvalue, singleLimit_le_iff hc]
    have hparts := hn.parts
    have hlt := hc.lt
    split at hparts <;> omega

end Double

end Landform
