import Landform.Number.Decimal
import Landform.Proofs.Number.Packing

/-! # Decimals as doubles

The double of a decimal is the one next to it, however it is computed: small ones by one operation
on doubles, all others on integers. -/

namespace Landform

open Float.Model Float.Model.UnpackedFloat

variable {m : ℕ} {q : ℤ}

/-! ## Integers -/

section Integers

variable {n : ℕ} (hpos : 0 < n) (hlt : n < 2 ^ 53)
include hpos

theorem le_shifted : 2 ^ 52 ≤ n * 2 ^ (52 - n.log2) := by
  calc 2 ^ 52 ≤ 2 ^ (n.log2 + (52 - n.log2)) := Nat.pow_le_pow_right (by norm_num) (by omega)
    _ = 2 ^ n.log2 * 2 ^ (52 - n.log2) := pow_add _ _ _
    _ ≤ n * 2 ^ (52 - n.log2) := Nat.mul_le_mul_right _ (Nat.log2_self_le hpos.ne')

include hlt

theorem log2_lt : n.log2 < 53 := (Nat.log2_lt hpos.ne').mpr hlt

theorem shifted_lt : n * 2 ^ (52 - n.log2) < 2 ^ 53 := by
  have hlog := log2_lt hpos hlt
  calc n * 2 ^ (52 - n.log2) < 2 ^ (n.log2 + 1) * 2 ^ (52 - n.log2) :=
        Nat.mul_lt_mul_of_pos_right Nat.lt_log2_self (by positivity)
    _ = 2 ^ 53 := by
        rw [← pow_add]
        congr 1
        omega

/-- The canonical form of an integer that has no more bits than a mantissa. -/
theorem canonical_integer : Canonical (n * 2 ^ (52 - n.log2)) ((n.log2 : ℤ) - 52) := by
  have hlog := log2_lt hpos hlt
  exact ⟨by positivity, shifted_lt hpos hlt, by omega, by omega, .inl (le_shifted hpos)⟩

theorem value_integer : ((n * 2 ^ (52 - n.log2) : ℕ) : ℚ) * 2 ^ ((n.log2 : ℤ) - 52) = n := by
  have hlog := log2_lt hpos hlt
  have hexponent : (n.log2 : ℤ) - 52 = -((52 - n.log2 : ℕ) : ℤ) := by omega
  rw [hexponent, zpow_neg, zpow_natCast]
  push_cast
  field_simp

theorem nearest_integer : Nearest (n * 2 ^ (52 - n.log2)) ((n.log2 : ℤ) - 52) n := by
  have hself := nearest_self (n * 2 ^ (52 - n.log2)) ((n.log2 : ℤ) - 52)
  rwa [value_integer hpos hlt] at hself

/-- Such an integer is a double as it is. -/
theorem toFloat_integer :
    n.toUInt64.toFloat = (canonical_integer hpos hlt).float .positive := by
  have hword : n.toUInt64.toNat = n := by
    rw [Nat.toUInt64, UInt64.toNat_ofNat']
    omega
  have hround : UnpackedFloat.round Format.binary64 .positive n 0 =
      .finite .positive (n * 2 ^ (52 - n.log2)) ((n.log2 : ℤ) - 52)
        (canonical_integer hpos hlt).pos := by
    apply round_eq .positive hpos (canonical_integer hpos hlt)
    rw [zpow_zero, mul_one]
    exact nearest_integer hpos hlt
  have hmodel : n.toUInt64.toFloat =
      .ofModel (.pack (UnpackedFloat.ofInt Format.binary64 (n.toUInt64.toNat : ℤ))) := rfl
  have hpositive : compare (n : ℤ) 0 = .gt := Int.compare_eq_gt.mpr (by omega)
  rw [hmodel, hword]
  simp only [UnpackedFloat.ofInt, UnpackedFloat.normalize, hpositive, Int.toNat_natCast, hround]
  rfl

end Integers

/-! ## Powers of ten -/

/-- A double is a power of ten, with all the bits of a mantissa. -/
def isPower (x : Float) (e : ℕ) : Bool :=
  match x.toModel.unpack with
  | .finite .positive m q _ => 2 ^ 52 ≤ m ∧ -52 ≤ q ∧ m * 2 ^ (q + 52).toNat = 10 ^ e * 2 ^ 52
  | _ => false

theorem unpack_isPower {x : Float} {e : ℕ} (h : isPower x e = true) :
    ∃ m q hpos, x.toModel.unpack = .finite .positive m q hpos ∧ 2 ^ 52 ≤ m ∧
      (m : ℚ) * 2 ^ q = 10 ^ e := by
  unfold isPower at h
  split at h
  · rename_i m q hpos hx
    simp only [decide_eq_true_eq] at h
    obtain ⟨hm, hq, hvalue⟩ := h
    refine ⟨m, q, hpos, hx, hm, ?_⟩
    have hsplit : q + (52 : ℕ) = ((q + 52).toNat : ℤ) := by omega
    have hpow : (2 : ℚ) ^ (q + 52).toNat = 2 ^ 52 * 2 ^ q := by
      rw [← two_zpow_add, hsplit, zpow_natCast]
    have hvalue' : (m : ℚ) * 2 ^ (q + 52).toNat = 10 ^ e * 2 ^ 52 := by exact_mod_cast hvalue
    rw [hpow] at hvalue'
    linarith
  · cases h

/-- The table of powers of ten is right. -/
theorem isPower_table : ∀ e : Fin Float.exactlyRepresentablePowersOfTen.size,
    isPower Float.exactlyRepresentablePowersOfTen[e] e = true := by
  decide +kernel

/-! ## Decimals -/

theorem ten_pow_le (l : ℕ) : 10 ^ (l * 3 / 10) ≤ 2 ^ l := by
  rw [← Nat.pow_le_pow_iff_left (n := 10) (by norm_num)]
  calc (10 ^ (l * 3 / 10)) ^ 10 = 10 ^ (l * 3 / 10 * 10) := (pow_mul _ _ _).symm
    _ ≤ 10 ^ (3 * l) := Nat.pow_le_pow_right (by norm_num) (by omega)
    _ = (10 ^ 3) ^ l := pow_mul _ _ _
    _ ≤ (2 ^ 10) ^ l := Nat.pow_le_pow_left (by norm_num) l
    _ = (2 ^ l) ^ 10 := by rw [← pow_mul, ← pow_mul, mul_comm]

section Decimals

variable {n : ℕ} {e : ℤ} (h : Canonical m q)
include h

theorem Canonical.digits_pos (hx : Nearest m q (n * 10 ^ e)) : 0 < n := by
  apply Nat.pos_of_ne_zero
  rintro rfl
  simpa using h.nearest_pos hx

/-- A decimal next to a double has no more than 309 digits before the point. -/
theorem Canonical.magnitude_lt (hx : Nearest m q (n * 10 ^ e)) (hn : 0 < n) :
    ((n.log2 * 3 / 10 : ℕ) : ℤ) + e < 309 := by
  have hpow : (0 : ℚ) < 10 ^ e := by positivity
  have hdigits : ((10 : ℚ) ^ (n.log2 * 3 / 10)) ≤ n := by
    exact_mod_cast (ten_pow_le n.log2).trans (Nat.log2_self_le hn.ne')
  have hgreatest := h.greatest
  have hlt : (10 : ℚ) ^ (((n.log2 * 3 / 10 : ℕ) : ℤ) + e) < 10 ^ (309 : ℤ) := by
    calc (10 : ℚ) ^ (((n.log2 * 3 / 10 : ℕ) : ℤ) + e)
        = 10 ^ (n.log2 * 3 / 10) * 10 ^ e := by rw [zpow_add₀ (by norm_num), zpow_natCast]
      _ ≤ n * 10 ^ e := mul_le_mul_of_nonneg_right hdigits hpow.le
      _ < 2 ^ (q + 53) := h.nearest_lt hx
      _ ≤ 2 ^ (1024 : ℤ) := zpow_le_zpow_right₀ (by norm_num) (by omega)
      _ < 10 ^ (309 : ℤ) := by exact_mod_cast (by decide +kernel : 2 ^ 1024 < 10 ^ 309)
  exact (zpow_lt_zpow_iff_right₀ (by norm_num)).mp hlt

/-- A decimal with a power of ten that multiplies, as integers. -/
theorem Canonical.mul_ten_eq (hn : 0 < n) (he : 0 ≤ e) (hx : Nearest m q (n * 10 ^ e))
    (hn' : 0 < n <<< 53) (he' : 0 < 10 ^ e.toNat) :
    UnpackedFloat.mul Format.binary64 (.finite .positive (n <<< 53) (-53) hn')
      (.finite .positive (10 ^ e.toNat) 0 he') = .finite .positive m q h.pos := by
  have hpow : (10 : ℚ) ^ e = (10 ^ e.toNat : ℕ) * 2 ^ (0 : ℤ) := by
    rw [zpow_of_nonneg he]
    push_cast
    ring
  have hshift : (n : ℚ) = (n <<< 53 : ℕ) * 2 ^ (-53 : ℤ) := by
    rw [Nat.shiftLeft_eq]
    push_cast
    rw [zpow_neg]
    field_simp
    norm_num
  rw [hpow, hshift] at hx
  apply mul_eq _ _ h hx
  -- the digits were shifted so that there are enough bits
  calc 2 ^ 52 ≤ n * 2 ^ 53 * 1 := by omega
    _ ≤ n * 2 ^ 53 * 10 ^ e.toNat := Nat.mul_le_mul_left _ he'
    _ = n <<< 53 * 10 ^ e.toNat := by rw [Nat.shiftLeft_eq]

/-- A decimal with a power of ten that divides, as integers. -/
theorem Canonical.div_ten_eq (hn : 0 < n) (he : ¬ 0 ≤ e) (hx : Nearest m q (n * 10 ^ e))
    (he' : 0 < 10 ^ (-e).toNat) :
    UnpackedFloat.div Format.binary64 (.finite .positive n 0 hn)
      (.finite .positive (10 ^ (-e).toNat) 0 he') = .finite .positive m q h.pos := by
  have hpow : (n : ℚ) * 10 ^ e = n * 2 ^ (0 : ℤ) / ((10 ^ (-e).toNat : ℕ) * 2 ^ (0 : ℤ)) := by
    have hpow := zpow_mul_of_neg (b := 10) (by norm_num) he
    rw [zpow_zero, mul_one, mul_one, eq_div_iff (by positivity)]
    push_cast
    linear_combination (n : ℚ) * hpow
  rw [hpow] at hx
  exact div_eq _ _ h hx

/-- A decimal that is computed on integers. -/
theorem Canonical.ofScientific_eq (hx : Nearest m q (n * 10 ^ e)) (hlow : -400 ≤ e) :
    Float.ofModel (Float.Model.ofScientific n e) = h.float .positive := by
  have hn := h.digits_pos hx
  have hmagnitude := h.magnitude_lt hx hn
  have hoverflow : ¬ e > 2 ^ Format.binary64.exponentBits := by
    norm_num [Format.exponentBits]
    omega
  have hunderflow : ¬ e < -((2 ^ Format.binary64.exponentBits : ℤ) + n.log2) := by
    norm_num [Format.exponentBits]
    omega
  have hround : UnpackedFloat.ofScientific Format.binary64 n e = .finite .positive m q h.pos := by
    unfold UnpackedFloat.ofScientific
    rw [dif_neg hn.ne', if_neg hoverflow, if_neg hunderflow]
    by_cases he : 0 ≤ e
    · rw [if_pos he]
      exact h.mul_ten_eq hn he hx _ _
    · rw [if_neg he]
      exact h.div_ten_eq hn he hx _
  change Float.ofModel (.pack _) = _
  rw [hround]
  rfl

/-- A decimal whose digits and power of ten are doubles. -/
theorem Canonical.mul_power_eq (hn : 0 < n) (hlt : n < 2 ^ 53) {x : Float} {k : ℕ}
    (hpower : isPower x k = true) (hx : Nearest m q (n * 10 ^ k)) :
    n.toUInt64.toFloat * x = h.float .positive := by
  obtain ⟨m', q', hpos, hunpack, hm, hvalue⟩ := unpack_isPower hpower
  -- both factors are doubles, so that one operation rounds once
  rw [← hvalue, ← value_integer hn hlt] at hx
  change Float.ofModel (.pack (UnpackedFloat.mul _ n.toUInt64.toFloat.toModel.unpack _)) = _
  rw [toFloat_integer hn hlt, Canonical.unpack_float, hunpack, mul_eq _ _ h hx]
  · rfl
  · calc 2 ^ 52 ≤ m' := hm
      _ ≤ n * 2 ^ (52 - n.log2) * m' :=
        Nat.le_mul_of_pos_left _ (canonical_integer hn hlt).pos

/-- The same for a power of ten that divides. -/
theorem Canonical.div_power_eq (hn : 0 < n) (hlt : n < 2 ^ 53) {x : Float} {k : ℕ}
    (hpower : isPower x k = true) (hx : Nearest m q (n / 10 ^ k)) :
    n.toUInt64.toFloat / x = h.float .positive := by
  obtain ⟨m', q', hpos, hunpack, hm, hvalue⟩ := unpack_isPower hpower
  rw [← hvalue, ← value_integer hn hlt] at hx
  change Float.ofModel (.pack (UnpackedFloat.div _ n.toUInt64.toFloat.toModel.unpack _)) = _
  rw [toFloat_integer hn hlt, Canonical.unpack_float, hunpack, div_eq _ _ h hx]
  rfl

/-- The double of a decimal is the one next to it. -/
theorem Canonical.toFloat_eq {d : Digits} (hx : Nearest m q (d.digits * 10 ^ d.exponent))
    (hlow : -400 ≤ d.exponent) : d.toFloat = h.float .positive := by
  obtain ⟨n, e⟩ := d
  simp only at hx hlow
  have hn := h.digits_pos hx
  unfold Digits.toFloat
  by_cases hsign : 0 ≤ e
  · rw [if_pos hsign]
    obtain ⟨k, rfl⟩ : ∃ k : ℕ, e = k := ⟨e.toNat, by omega⟩
    rw [Int.toNat_natCast, Float.ofScientific]
    split
    · rename_i hsmall
      rw [zpow_natCast] at hx
      exact h.mul_power_eq hn hsmall.1 (isPower_table ⟨k, Nat.lt_succ_of_le hsmall.2⟩) hx
    · exact h.ofScientific_eq hx hlow
  · rw [if_neg hsign]
    obtain ⟨k, rfl⟩ : ∃ k : ℕ, e = -k := ⟨(-e).toNat, by omega⟩
    rw [neg_neg, Int.toNat_natCast, Float.ofScientific]
    split
    · rename_i hsmall
      rw [zpow_neg, zpow_natCast, ← div_eq_mul_inv] at hx
      exact h.div_power_eq hn hsmall.1 (isPower_table ⟨k, Nat.lt_succ_of_le hsmall.2⟩) hx
    · have hneg : Int.negOfNat k = -k := Int.negOfNat_eq
      simp only [if_true, hneg]
      exact h.ofScientific_eq hx hlow

end Decimals

end Landform
