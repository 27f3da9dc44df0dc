import Landform.Proofs.Number.Scientific

/-! # Integers as doubles

An integer of no more than 53 bits is a double, and as long as sums stay within 53 bits, doubles
that are integers are added as integers are: nothing is rounded, so it makes no difference in which
order they are added. -/

namespace Landform

open Float.Model Float.Model.UnpackedFloat

/-! ## Signs -/

/-- The sign of an integer. Zero counts as positive. -/
def signOf (a : ℤ) : Sign := if a < 0 then .negative else .positive

theorem apply_eq_mul (s : Sign) (n : ℤ) : s.apply n = s.apply 1 * n := by
  cases s with
  | negative => exact (neg_one_mul n).symm
  | positive => exact (one_mul n).symm

theorem signOf_apply (a : ℤ) : (signOf a).apply a.natAbs = a := by
  unfold signOf
  split
  · change -(a.natAbs : ℤ) = a
    omega
  · change (a.natAbs : ℤ) = a
    omega

/-- A power of two does not change the sign. -/
theorem signOf_eq {a n e : ℤ} (h : (n : ℚ) * 2 ^ e = a) : signOf n = signOf a := by
  have hpow : (0 : ℚ) < 2 ^ e := by positivity
  have hiff : n < 0 ↔ a < 0 := by
    rw [← Int.cast_lt_zero (R := ℚ), ← Int.cast_lt_zero (R := ℚ), ← h]
    constructor
    · intro hn
      exact mul_neg_of_neg_of_pos hn hpow
    · intro ha
      exact neg_of_mul_neg_left ha hpow.le
  simp only [signOf, hiff]

/-! ## Rounding an integer -/

theorem normalize_apply (s : Sign) {k : ℕ} (hk : 0 < k) (e : ℤ) :
    UnpackedFloat.normalize Format.binary64 (s.apply k) e .positive =
      UnpackedFloat.round Format.binary64 s k e := by
  cases s with
  | negative =>
    have hneg : compare (-(k : ℤ)) 0 = .lt := Int.compare_eq_lt.mpr (by omega)
    have habs : (- -(k : ℤ)).toNat = k := by omega
    simp only [UnpackedFloat.normalize, Sign.apply, hneg, habs]
  | positive =>
    have hpos : compare (k : ℤ) 0 = .gt := Int.compare_eq_gt.mpr (by omega)
    simp only [UnpackedFloat.normalize, Sign.apply, hpos, Int.toNat_natCast]

/-- An integer other than zero is rounded to itself, at whatever exponent it is given. -/
theorem normalize_eq {a n e : ℤ} (hpos : 0 < a.natAbs) (hlt : a.natAbs < 2 ^ 53)
    (h : (n : ℚ) * 2 ^ e = a) :
    UnpackedFloat.normalize Format.binary64 n e .positive =
      .finite (signOf a) (a.natAbs * 2 ^ (52 - a.natAbs.log2)) ((a.natAbs.log2 : ℤ) - 52)
        (canonical_integer hpos hlt).pos := by
  have hvalue : (n.natAbs : ℚ) * 2 ^ e = a.natAbs := by
    rw [Nat.cast_natAbs, Nat.cast_natAbs, Int.cast_abs, Int.cast_abs, ← h, abs_mul,
      abs_of_pos (a := (2 : ℚ) ^ e) (by positivity)]
  have hn : 0 < n.natAbs := by
    apply Nat.pos_of_ne_zero
    intro hzero
    rw [hzero, Nat.cast_zero, zero_mul] at hvalue
    exact hpos.ne (by exact_mod_cast hvalue)
  -- the sign goes along, and the magnitude is rounded as a natural number is
  conv_lhs => rw [← signOf_apply n]
  rw [normalize_apply _ hn, signOf_eq h]
  apply round_eq _ hn (canonical_integer hpos hlt)
  rw [hvalue]
  exact nearest_integer hpos hlt

/-- The exponent at which an integer is given makes no difference. -/
theorem normalize_eq_ofInt {a n e : ℤ} (hlt : a.natAbs < 2 ^ 53) (h : (n : ℚ) * 2 ^ e = a) :
    UnpackedFloat.normalize Format.binary64 n e .positive = .ofInt Format.binary64 a := by
  rcases Nat.eq_zero_or_pos a.natAbs with hzero | hpos
  · obtain rfl : a = 0 := Int.natAbs_eq_zero.mp hzero
    have hn : (n : ℚ) = 0 := (mul_eq_zero.mp (h.trans Int.cast_zero)).resolve_right (by positivity)
    obtain rfl : n = 0 := by exact_mod_cast hn
    rfl
  · have hself : (a : ℚ) * 2 ^ (0 : ℤ) = a := by rw [zpow_zero, mul_one]
    rw [normalize_eq hpos hlt h, UnpackedFloat.ofInt, normalize_eq hpos hlt hself]

/-- The unpacked double of an integer other than zero. -/
theorem ofInt_eq {a : ℤ} (hpos : 0 < a.natAbs) (hlt : a.natAbs < 2 ^ 53) :
    UnpackedFloat.ofInt Format.binary64 a =
      .finite (signOf a) (a.natAbs * 2 ^ (52 - a.natAbs.log2)) ((a.natAbs.log2 : ℤ) - 52)
        (canonical_integer hpos hlt).pos :=
  normalize_eq hpos hlt (by rw [zpow_zero, mul_one])

/-! ## Sums -/

/-- Adding bits to a mantissa changes the exponent and not the number. -/
theorem decreaseExponent_value (s : Sign) (k : ℕ) {e t : ℤ} (h : t ≤ e) :
    ((s.apply (decreaseExponent k e t).1 : ℤ) : ℚ) * 2 ^ t = (s.apply k : ℤ) * 2 ^ e := by
  have hsplit : e = t + ((e - t).toNat : ℤ) := by omega
  have hpow : (2 : ℚ) ^ e = 2 ^ (e - t).toNat * 2 ^ t := by
    conv_lhs => rw [hsplit, two_zpow_add]
  rw [apply_eq_mul, apply_eq_mul s k, hpow]
  simp only [decreaseExponent, Nat.shiftLeft_eq]
  push_cast
  ring

theorem value_signed {a : ℤ} (hpos : 0 < a.natAbs) (hlt : a.natAbs < 2 ^ 53) :
    (((signOf a).apply (a.natAbs * 2 ^ (52 - a.natAbs.log2) : ℕ) : ℤ) : ℚ) *
      2 ^ ((a.natAbs.log2 : ℤ) - 52) = a := by
  have hsigned : (((signOf a).apply 1 : ℤ) : ℚ) * (a.natAbs : ℕ) = a := by
    have hsigned := congrArg (Int.cast : ℤ → ℚ) (signOf_apply a)
    rwa [apply_eq_mul, Int.cast_mul, Int.cast_natCast] at hsigned
  rw [apply_eq_mul, Int.cast_mul, mul_assoc, Int.cast_natCast, value_integer hpos hlt, hsigned]

/-- Nothing is lost when integers are added whose sum has no more bits than a mantissa. -/
theorem add_ofInt {a b : ℤ} (ha : a.natAbs < 2 ^ 53) (hb : b.natAbs < 2 ^ 53)
    (hab : (a + b).natAbs < 2 ^ 53) :
    UnpackedFloat.add Format.binary64 (.ofInt Format.binary64 a) (.ofInt Format.binary64 b) =
      .ofInt Format.binary64 (a + b) := by
  -- zero is a form of its own, and is added without rounding
  rcases Nat.eq_zero_or_pos a.natAbs with hzero | hapos
  · obtain rfl : a = 0 := Int.natAbs_eq_zero.mp hzero
    rw [zero_add]
    rcases Nat.eq_zero_or_pos b.natAbs with hzero | hbpos
    · obtain rfl : b = 0 := Int.natAbs_eq_zero.mp hzero
      rfl
    · rw [ofInt_eq hbpos hb]
      rfl
  rcases Nat.eq_zero_or_pos b.natAbs with hzero | hbpos
  · obtain rfl : b = 0 := Int.natAbs_eq_zero.mp hzero
    rw [add_zero, ofInt_eq hapos ha]
    rfl
  · rw [ofInt_eq hapos ha, ofInt_eq hbpos hb]
    apply normalize_eq_ofInt hab
    -- both mantissas are brought to the less exponent, and their sum is that of the integers
    have hfirst := decreaseExponent_value (signOf a) (a.natAbs * 2 ^ (52 - a.natAbs.log2))
      (min_le_left ((a.natAbs.log2 : ℤ) - 52) ((b.natAbs.log2 : ℤ) - 52))
    have hsecond := decreaseExponent_value (signOf b) (b.natAbs * 2 ^ (52 - b.natAbs.log2))
      (min_le_right ((a.natAbs.log2 : ℤ) - 52) ((b.natAbs.log2 : ℤ) - 52))
    rw [value_signed hapos ha] at hfirst
    rw [value_signed hbpos hb] at hsecond
    rw [Int.cast_add, add_mul, Int.cast_add]
    exact congrArg₂ (· + ·) hfirst hsecond

/-! ## Doubles -/

theorem ofNat_eq_ofInt {n : ℕ} (hlt : n < 2 ^ 53) :
    Float.ofNat n = .ofModel (.pack (.ofInt Format.binary64 n)) := by
  rcases Nat.eq_zero_or_pos n with rfl | hpos
  · rfl
  · have hnearest : Nearest (n * 2 ^ (52 - n.log2)) ((n.log2 : ℤ) - 52) (n * 10 ^ 0) := by
      rw [pow_zero, mul_one]
      exact nearest_integer hpos hlt
    -- a numeral is a decimal with no power of ten
    have hmul := (canonical_integer hpos hlt).mul_power_eq hpos hlt
      (isPower_table ⟨0, by decide⟩) hnearest
    rw [ofInt_eq (a := n) hpos hlt]
    exact (dif_pos ⟨hlt, Nat.zero_le _⟩).trans hmul

/-- The double of an integer. -/
theorem float_ofInt {a : ℤ} (hlt : a.natAbs < 2 ^ 53) :
    Float.ofInt a = .ofModel (.pack (.ofInt Format.binary64 a)) := by
  cases a with
  | ofNat n => exact ofNat_eq_ofInt hlt
  | negSucc n =>
    rw [Int.natAbs_negSucc] at hlt
    have hpos : 0 < n + 1 := Nat.succ_pos n
    have hnat : Float.ofNat (n + 1) = (canonical_integer hpos hlt).float .positive := by
      rw [ofNat_eq_ofInt hlt, ofInt_eq (a := (n + 1 : ℕ)) hpos hlt]
      rfl
    have hneg := ofInt_eq (a := .negSucc n) hpos hlt
    simp only [Int.natAbs_negSucc, signOf, Int.negSucc_lt_zero, if_true] at hneg
    -- the negative of a double has the same magnitude, and zero is not among these
    change -Float.ofNat (n + 1) = _
    rw [hnat, Canonical.neg_float, hneg]
    rfl

theorem unpack_ofInt {a : ℤ} (hlt : a.natAbs < 2 ^ 53) :
    (Float.ofInt a).toModel.unpack = .ofInt Format.binary64 a := by
  rw [float_ofInt hlt]
  rcases Nat.eq_zero_or_pos a.natAbs with hzero | hpos
  · obtain rfl : a = 0 := Int.natAbs_eq_zero.mp hzero
    rfl
  · rw [ofInt_eq hpos hlt]
    exact (canonical_integer hpos hlt).unpack_float _

/-- The sum of doubles that are integers is the double of their sum. -/
theorem ofInt_add {a b : ℤ} (ha : a.natAbs < 2 ^ 53) (hb : b.natAbs < 2 ^ 53)
    (hab : (a + b).natAbs < 2 ^ 53) : Float.ofInt a + Float.ofInt b = Float.ofInt (a + b) := by
  change Float.ofModel (.pack (UnpackedFloat.add Format.binary64
    (Float.ofInt a).toModel.unpack (Float.ofInt b).toModel.unpack)) = _
  rw [unpack_ofInt ha, unpack_ofInt hb, add_ofInt ha hb hab, float_ofInt hab]

end Landform
