import Mathlib

/-! # Rounding to the nearest double

Doubles are computed on mantissas with two bits that tell what was lost. The bits are enough to
round to the nearest double: whatever lies between the midpoints on either side of a double is
rounded to it, and a midpoint is if the mantissa of the double is even. -/

namespace Landform

open Float.Model Float.Model.UnpackedFloat

/-! ## What a mantissa stands for -/

/-- The part of a unit that was lost, as far as the bits tell: whether it is a half or more, and
whether it differs from that. -/
def Lost (half : Bool) (rest : Bool) (f : ℚ) : Prop :=
  match half, rest with
  | false, false => f = 0
  | false, true => 0 < f ∧ f < 1 / 2
  | true, false => f = 1 / 2
  | true, true => 1 / 2 < f ∧ f < 1

/-- A number between a mantissa and the next one. -/
def Stands (em : ExtendedMantissa) (x : ℚ) : Prop :=
  ∃ f, Lost em.roundBit em.stickyBit f ∧ x = em.mantissa + f

theorem Lost.bounds {half rest : Bool} {f : ℚ} (h : Lost half rest f) : 0 ≤ f ∧ f < 1 := by
  cases half <;> cases rest <;> simp only [Lost] at h
  · subst h
    norm_num
  · constructor <;> linarith
  · subst h
    norm_num
  · constructor <;> linarith

theorem Lost.half {half rest : Bool} {f : ℚ} (h : Lost half rest f) :
    Lost false (half || rest) (f / 2) ∧ Lost true (half || rest) ((1 + f) / 2) := by
  obtain ⟨hlo, hhi⟩ := h.bounds
  cases half <;> cases rest <;> simp only [Lost, Bool.or_false, Bool.or_true] at h ⊢
  · subst h
    norm_num
  · refine ⟨⟨?_, ?_⟩, ?_, ?_⟩ <;> linarith
  · subst h
    norm_num
  · refine ⟨⟨?_, ?_⟩, ?_, ?_⟩ <;> linarith

theorem Stands.bounds {em : ExtendedMantissa} {x : ℚ} (h : Stands em x) :
    (em.mantissa : ℚ) ≤ x ∧ x < em.mantissa + 1 := by
  obtain ⟨f, hf, rfl⟩ := h
  obtain ⟨hlo, hhi⟩ := hf.bounds
  constructor <;> linarith

/-- Halving moves the lowest bit of the mantissa to the bits of what is lost. -/
theorem Stands.shiftRightOne {em : ExtendedMantissa} {x : ℚ} (h : Stands em x) :
    Stands em.shiftRightOne (x / 2) := by
  obtain ⟨n, half, rest⟩ := em
  obtain ⟨f, hf, rfl⟩ := h
  have hn : (n : ℚ) = 2 * (n / 2 : ℕ) + (n % 2 : ℕ) := by
    exact_mod_cast (Nat.div_add_mod n 2).symm
  have hx : ((n : ℚ) + f) / 2 = (n / 2 : ℕ) + ((n % 2 : ℕ) + f) / 2 := by
    rw [hn]
    ring
  refine ⟨((n % 2 : ℕ) + f) / 2, ?_, hx⟩
  -- an odd mantissa leaves a half behind
  rcases Nat.mod_two_eq_zero_or_one n with hmod | hmod
  · simpa [ExtendedMantissa.shiftRightOne, hmod] using hf.half.1
  · simpa [ExtendedMantissa.shiftRightOne, hmod] using hf.half.2

theorem Stands.shiftRight {em : ExtendedMantissa} {x : ℚ} (h : Stands em x) (k : ℕ) :
    Stands (em >>> k) (x / 2 ^ k) := by
  change Stands (k.repeat ExtendedMantissa.shiftRightOne em) _
  induction k with
  | zero => simpa [Nat.repeat] using h
  | succ k ih =>
    rw [Nat.repeat, pow_succ, ← div_div]
    exact ih.shiftRightOne

/-! ## Rounding a mantissa -/

/-- An integer is what a number is rounded to: the nearest one, or of two nearest ones the even. -/
structure RoundsTo (x : ℚ) (r : ℕ) : Prop where
  lower : (r : ℚ) - 1 / 2 ≤ x
  upper : x ≤ r + 1 / 2
  tie : x = r - 1 / 2 ∨ x = r + 1 / 2 → r % 2 = 0

theorem Stands.rounded {em : ExtendedMantissa} {x : ℚ} {r : ℕ} (h : Stands em x)
    (hr : RoundsTo x r) : em.roundedMantissa = r := by
  obtain ⟨n, half, rest⟩ := em
  obtain ⟨f, hf, rfl⟩ := h
  obtain ⟨hlower, hupper, htie⟩ := hr
  obtain ⟨hlo, hhi⟩ := hf.bounds
  have hle : n ≤ r := by
    have : (n : ℚ) < r + 1 := by
      simp only at hupper
      linarith
    exact_mod_cast Nat.lt_succ_iff.mp (by exact_mod_cast this)
  have hge : r ≤ n + 1 := by
    have : (r : ℚ) < n + 2 := by
      simp only at hlower
      linarith
    have : r < n + 2 := by exact_mod_cast this
    omega
  -- the integer is the mantissa or the next one, and the bits tell which
  obtain rfl | rfl : r = n ∨ r = n + 1 := by omega
  · cases half <;> cases rest <;> simp only [Lost] at hf <;>
      simp only [ExtendedMantissa.roundedMantissa, ExtendedMantissa.accuracy,
        Accuracy.roundToNearestEven]
    · have := htie (.inr (by rw [hf]))
      omega
    · simp only at hupper
      linarith
  · cases half <;> cases rest <;> simp only [Lost] at hf <;>
      simp only [ExtendedMantissa.roundedMantissa, ExtendedMantissa.accuracy,
        Accuracy.roundToNearestEven] <;> push_cast at hlower
    · linarith
    · linarith
    · have := htie (.inl (by rw [hf]; push_cast; ring))
      omega

/-! ## Doubles -/

/-- The canonical form `m * 2 ^ q` of a finite double other than zero. -/
structure Canonical (m : ℕ) (q : ℤ) : Prop where
  pos : 0 < m
  lt : m < 2 ^ 53
  least : -1074 ≤ q
  greatest : q ≤ 971
  normal : 2 ^ 52 ≤ m ∨ q = -1074

/-- How far the midpoint below a double is. Below a power of two the doubles are twice as dense. -/
def gapBelow (m : ℕ) (q : ℤ) : ℚ := if m = 2 ^ 52 ∧ -1074 < q then 1 / 4 else 1 / 2

/-- The double next to a number: it lies between the midpoints around the double, and on one of them
only if the double is even. -/
structure Nearest (m : ℕ) (q : ℤ) (x : ℚ) : Prop where
  lower : (m - gapBelow m q) * 2 ^ q ≤ x
  upper : x ≤ (m + 1 / 2) * 2 ^ q
  tie : x = (m - gapBelow m q) * 2 ^ q ∨ x = (m + 1 / 2) * 2 ^ q → m % 2 = 0

variable {m : ℕ} {q : ℤ} {x : ℚ}

theorem gapBelow_le : gapBelow m q ≤ 1 / 2 := by
  unfold gapBelow
  split <;> norm_num

theorem gapBelow_pos : 0 < gapBelow m q := by
  unfold gapBelow
  split <;> norm_num

theorem Canonical.half_le (h : Canonical m q) : (1 : ℚ) / 2 ≤ m - gapBelow m q := by
  have hm : (1 : ℚ) ≤ m := by exact_mod_cast h.pos
  have hgap := gapBelow_le (m := m) (q := q)
  linarith

theorem Canonical.nearest_pos (h : Canonical m q) (hx : Nearest m q x) : 0 < x := by
  have hpow : (0 : ℚ) < 2 ^ q := by positivity
  have hhalf := h.half_le
  calc (0 : ℚ) < (m - gapBelow m q) * 2 ^ q := by apply mul_pos _ hpow; linarith
    _ ≤ x := hx.lower

/-- A double is the one next to itself. -/
theorem nearest_self (m : ℕ) (q : ℤ) : Nearest m q (m * 2 ^ q) := by
  have hpow : (0 : ℚ) < 2 ^ q := by positivity
  have hgap := gapBelow_pos (m := m) (q := q)
  refine ⟨?_, ?_, ?_⟩
  · apply mul_le_mul_of_nonneg_right _ hpow.le
    linarith
  · apply mul_le_mul_of_nonneg_right _ hpow.le
    linarith
  · rintro (h | h)
    · have := mul_right_cancel₀ hpow.ne' h
      linarith
    · have := mul_right_cancel₀ hpow.ne' h
      linarith

theorem two_zpow_lt {a b : ℤ} (h : (2 : ℚ) ^ a < 2 ^ b) : a < b :=
  (zpow_lt_zpow_iff_right₀ (by norm_num)).mp h

theorem two_zpow_add (k : ℕ) (q : ℤ) : (2 : ℚ) ^ (q + k) = 2 ^ k * 2 ^ q := by
  rw [zpow_add₀ (by norm_num), mul_comm, zpow_natCast]

theorem zpow_of_nonneg {b : ℚ} {e : ℤ} (he : 0 ≤ e) : b ^ e = b ^ e.toNat := by
  rw [← zpow_natCast, Int.toNat_of_nonneg he]

theorem zpow_mul_of_neg {b : ℚ} (hb : b ≠ 0) {e : ℤ} (he : ¬ 0 ≤ e) :
    b ^ e * b ^ (-e).toNat = 1 := by
  have hneg : e + ((-e).toNat : ℤ) = 0 := by omega
  rw [← zpow_natCast, ← zpow_add₀ hb, hneg, zpow_zero]

theorem Canonical.nearest_lt (h : Canonical m q) (hx : Nearest m q x) : x < 2 ^ (q + 53) := by
  have hpow : (0 : ℚ) < 2 ^ q := by positivity
  have hm : (m : ℚ) + 1 ≤ 2 ^ 53 := by exact_mod_cast h.lt
  calc x ≤ (m + 1 / 2) * 2 ^ q := hx.upper
    _ < 2 ^ 53 * 2 ^ q := by apply mul_lt_mul_of_pos_right _ hpow; linarith
    _ = 2 ^ (q + 53) := (two_zpow_add 53 q).symm

/-- A number next to a double with all bits of a mantissa has nearly as many. -/
theorem Nearest.le_of_normal (hx : Nearest m q x) (hm : 2 ^ 52 ≤ m) : 2 ^ 51 * 2 ^ q ≤ x := by
  have hpow : (0 : ℚ) < 2 ^ q := by positivity
  have hgap := gapBelow_le (m := m) (q := q)
  have hm' : (2 : ℚ) ^ 52 ≤ m := by exact_mod_cast hm
  calc (2 : ℚ) ^ 51 * 2 ^ q ≤ (m - gapBelow m q) * 2 ^ q := by
        apply mul_le_mul_of_nonneg_right _ hpow.le
        linarith
    _ ≤ x := hx.lower

/-- A number less than the doubles of an exponent is next to none of them but the least. -/
theorem Nearest.eq_of_lt (hx : Nearest m q x) (hm : 2 ^ 52 ≤ m) (hlt : x < 2 ^ 52 * 2 ^ q) :
    m = 2 ^ 52 := by
  have hpow : (0 : ℚ) < 2 ^ q := by positivity
  have hgap := gapBelow_le (m := m) (q := q)
  by_contra hne
  have hge : (2 : ℚ) ^ 52 + 1 ≤ m := by
    have : 2 ^ 52 + 1 ≤ m := by omega
    exact_mod_cast this
  have hfar : 2 ^ 52 * 2 ^ q ≤ (m - gapBelow m q) * 2 ^ q := by
    apply mul_le_mul_of_nonneg_right _ hpow.le
    linarith
  exact absurd hlt (not_lt.mpr (hfar.trans hx.lower))

/-- The exponent at which a number is rounded to a double: that of the double, or one less directly
below a power of two. -/
theorem Canonical.exponent (h : Canonical m q) (hx : Nearest m q x) {t : ℤ}
    (hlo : (2 : ℚ) ^ (t - 1) ≤ x) (hhi : x < 2 ^ t) :
    max (t - 53) (-1074) = q ∨
      max (t - 53) (-1074) = q - 1 ∧ m = 2 ^ 52 ∧ -1074 < q ∧ x < 2 ^ 52 * 2 ^ q := by
  have hle : t - 1 < q + 53 := two_zpow_lt (hlo.trans_lt (h.nearest_lt hx))
  have hleast := h.least
  by_cases hq : q = -1074
  · -- there is no exponent below
    left
    omega
  have hnormal : 2 ^ 52 ≤ m := h.normal.resolve_right hq
  by_cases hbelow : x < 2 ^ 52 * 2 ^ q
  · right
    have hgt : q + (51 : ℕ) < t := by
      apply two_zpow_lt
      calc (2 : ℚ) ^ (q + (51 : ℕ)) = 2 ^ 51 * 2 ^ q := two_zpow_add 51 q
        _ ≤ x := hx.le_of_normal hnormal
        _ < 2 ^ t := hhi
    have hlt : t - 1 < q + (52 : ℕ) := by
      apply two_zpow_lt
      calc (2 : ℚ) ^ (t - 1) ≤ x := hlo
        _ < 2 ^ 52 * 2 ^ q := hbelow
        _ = 2 ^ (q + (52 : ℕ)) := (two_zpow_add 52 q).symm
    refine ⟨?_, hx.eq_of_lt hnormal hbelow, ?_, hbelow⟩ <;> omega
  · left
    have hge : q + (52 : ℕ) < t := by
      apply two_zpow_lt
      calc (2 : ℚ) ^ (q + (52 : ℕ)) = 2 ^ 52 * 2 ^ q := two_zpow_add 52 q
        _ ≤ x := not_lt.mp hbelow
        _ < 2 ^ t := hhi
    omega

/-- A double is the integer next to a number at the double's exponent. -/
theorem Nearest.roundsTo (hx : Nearest m q x) : RoundsTo (x / 2 ^ q) m := by
  have hpow : (0 : ℚ) < 2 ^ q := by positivity
  have hgap := gapBelow_le (m := m) (q := q)
  have hlower : (m : ℚ) - gapBelow m q ≤ x / 2 ^ q := (le_div_iff₀ hpow).mpr hx.lower
  refine ⟨by linarith, (div_le_iff₀ hpow).mpr hx.upper, ?_⟩
  rintro (htie | htie)
  · -- a tie below: then the double cannot be the least of its exponent, where the gap is smaller
    apply hx.tie
    left
    have hx' : x = (m - 1 / 2) * 2 ^ q := by
      rw [← htie]
      field_simp
    apply le_antisymm _ hx.lower
    rw [hx']
    apply mul_le_mul_of_nonneg_right _ hpow.le
    linarith
  · apply hx.tie
    right
    rw [← htie]
    field_simp

/-- Directly below a power of two, it is the integer next to a number at the exponent below. -/
theorem Nearest.roundsTo_below (hx : Nearest (2 ^ 52) q x) (hq : -1074 < q)
    (hlt : x < 2 ^ 52 * 2 ^ q) : RoundsTo (x / 2 ^ (q - 1)) (2 ^ 53) := by
  have hpow : (0 : ℚ) < 2 ^ (q - 1) := by positivity
  have hstep : (2 : ℚ) ^ q = 2 * 2 ^ (q - 1) := by
    have := two_zpow_add 1 (q - 1)
    simpa using this
  have hgap : gapBelow (2 ^ 52) q = 1 / 4 := if_pos ⟨rfl, hq⟩
  have hlower := hx.lower
  rw [hgap, hstep] at hlower
  rw [hstep] at hlt
  refine ⟨?_, ?_, fun _ => by norm_num⟩
  · rw [le_div_iff₀ hpow]
    push_cast at hlower ⊢
    linarith
  · rw [div_le_iff₀ hpow]
    push_cast at hlower ⊢
    linarith

/-! ## Rounding to a double -/

/-- The exponent at which a double with the given mantissa and exponent is kept. -/
theorem targetExponent_eq (mantissa : ℕ) (exponent : ℤ) :
    Format.binary64.targetExponent (totalExponent mantissa exponent) =
      max (mantissa.log2 + 1 + exponent - 53) (-1074) := by
  simp [Format.targetExponent, totalExponent, Format.mantissaBits, Format.minExponent]

theorem shiftToTargetExponent_eq {mantissa : ℕ} {exponent t : ℤ} {accuracy : Accuracy}
    (ht : max (mantissa.log2 + 1 + exponent - 53) (-1074) = t) (hle : exponent ≤ t) :
    shiftToTargetExponent Format.binary64 mantissa exponent accuracy =
      (ExtendedMantissa.ofMantissaAndAccuracy mantissa accuracy >>> (t - exponent).toNat, t) := by
  have hsum : exponent + ((t - exponent).toNat : ℤ) = t := by omega
  simp only [shiftToTargetExponent, shiftToExponent, targetExponent_eq, ht, hsum]

/-- A mantissa that is an integer stays one in the double that it is rounded to. -/
theorem shiftToTargetExponent_canonical (h : Canonical m q) :
    shiftToTargetExponent Format.binary64 m q .exact = (⟨m, false, false⟩, q) := by
  have ht : max (m.log2 + 1 + q - 53) (-1074) = q := by
    have hlog : m.log2 < 53 := (Nat.log2_lt h.pos.ne').mpr h.lt
    have hleast := h.least
    rcases h.normal with hnormal | hq
    · have hlog' : 52 ≤ m.log2 := (Nat.le_log2 h.pos.ne').mpr hnormal
      omega
    · omega
  rw [shiftToTargetExponent_eq ht le_rfl, Int.sub_self]
  rfl

/-- The power of two after the greatest mantissa is the least mantissa at the next exponent. -/
theorem shiftToTargetExponent_power (hq : -1074 < q) :
    shiftToTargetExponent Format.binary64 (2 ^ 53) (q - 1) .exact =
      (⟨2 ^ 52, false, false⟩, q) := by
  have ht : max (((2 ^ 53 : ℕ).log2 : ℤ) + 1 + (q - 1) - 53) (-1074) = q := by
    rw [Nat.log2_two_pow]
    omega
  have hone : (q - (q - 1)).toNat = 1 := by omega
  rw [shiftToTargetExponent_eq ht (by omega), hone]
  rfl

/-- A mantissa is brought to a greater exponent. -/
theorem Stands.shiftTo {em : ExtendedMantissa} {exponent t : ℤ} (h : Stands em (x / 2 ^ exponent))
    (ht : exponent ≤ t) : Stands (em >>> (t - exponent).toNat) (x / 2 ^ t) := by
  have hstands := h.shiftRight (t - exponent).toNat
  have hsplit : t = exponent + ((t - exponent).toNat : ℤ) := by omega
  have hpow : (2 : ℚ) ^ t = 2 ^ (t - exponent).toNat * 2 ^ exponent := by
    conv_lhs => rw [hsplit, two_zpow_add]
  rwa [div_div, mul_comm, ← hpow] at hstands

theorem Stands.ofMantissa_bounds {mantissa : ℕ} {accuracy : Accuracy} {y : ℚ}
    (h : Stands (.ofMantissaAndAccuracy mantissa accuracy) y) :
    (mantissa : ℚ) ≤ y ∧ y < mantissa + 1 := by
  have hbounds := h.bounds
  have hmantissa :
      (ExtendedMantissa.ofMantissaAndAccuracy mantissa accuracy).mantissa = mantissa := by
    cases accuracy with
    | exact => rfl
    | inexact order => cases order <;> rfl
  rw [hmantissa] at hbounds
  exact hbounds

theorem Canonical.zpow_le (h : Canonical m q) (hx : Nearest m q x) : (2 : ℚ) ^ (q - 1) ≤ x := by
  have hpow : (0 : ℚ) < 2 ^ q := by positivity
  have hstep : (2 : ℚ) ^ (q - 1) = 1 / 2 * 2 ^ q := by
    rw [zpow_sub_one₀ (by norm_num)]
    ring
  calc (2 : ℚ) ^ (q - 1) = 1 / 2 * 2 ^ q := hstep
    _ ≤ (m - gapBelow m q) * 2 ^ q := mul_le_mul_of_nonneg_right h.half_le hpow.le
    _ ≤ x := hx.lower

/-- The same, of the exponent that a mantissa tells. -/
theorem Canonical.exponent_of_stands (h : Canonical m q) (hx : Nearest m q x) {mantissa : ℕ}
    {exponent : ℤ} {accuracy : Accuracy}
    (hstands : Stands (.ofMantissaAndAccuracy mantissa accuracy) (x / 2 ^ exponent))
    (hle : exponent ≤ max (mantissa.log2 + 1 + exponent - 53) (-1074)) :
    max (mantissa.log2 + 1 + exponent - 53) (-1074) = q ∨
      max (mantissa.log2 + 1 + exponent - 53) (-1074) = q - 1 ∧ m = 2 ^ 52 ∧ -1074 < q ∧
        x < 2 ^ 52 * 2 ^ q := by
  have hpow : (0 : ℚ) < 2 ^ exponent := by positivity
  obtain ⟨hlo, hhi⟩ := hstands.ofMantissa_bounds
  rw [le_div_iff₀ hpow] at hlo
  rw [div_lt_iff₀ hpow] at hhi
  rcases Nat.eq_zero_or_pos mantissa with rfl | hpos
  · -- everything was lost, so the number is less than the least double
    left
    have hlt : q - 1 < exponent := by
      apply two_zpow_lt
      calc (2 : ℚ) ^ (q - 1) ≤ x := h.zpow_le hx
        _ < 2 ^ exponent := by simpa using hhi
    have hleast := h.least
    rw [Nat.log2_zero] at hle ⊢
    omega
  · apply h.exponent hx
    · have hlog : (2 : ℚ) ^ mantissa.log2 ≤ mantissa := by
        exact_mod_cast Nat.log2_self_le hpos.ne'
      have hsplit : (mantissa.log2 : ℤ) + 1 + exponent - 1 = exponent + mantissa.log2 := by ring
      calc (2 : ℚ) ^ ((mantissa.log2 : ℤ) + 1 + exponent - 1)
          = 2 ^ mantissa.log2 * 2 ^ exponent := by rw [hsplit, two_zpow_add]
        _ ≤ mantissa * 2 ^ exponent := mul_le_mul_of_nonneg_right hlog hpow.le
        _ ≤ x := hlo
    · have hlog : (mantissa : ℚ) + 1 ≤ 2 ^ (mantissa.log2 + 1) := by
        exact_mod_cast Nat.lt_log2_self (n := mantissa)
      have hsplit : (mantissa.log2 : ℤ) + 1 + exponent = exponent + (mantissa.log2 + 1 : ℕ) := by
        push_cast
        ring
      calc x < (mantissa + 1) * 2 ^ exponent := hhi
        _ ≤ 2 ^ (mantissa.log2 + 1) * 2 ^ exponent := mul_le_mul_of_nonneg_right hlog hpow.le
        _ = 2 ^ ((mantissa.log2 : ℤ) + 1 + exponent) := by rw [hsplit, two_zpow_add]

theorem roundWithAccuracy_of_shifts {sign : Sign} {mantissa : ℕ} {exponent exponent₁ exponent₂ : ℤ}
    {accuracy : Accuracy} {em₁ em₂ : ExtendedMantissa}
    (h₁ : shiftToTargetExponent Format.binary64 mantissa exponent accuracy = (em₁, exponent₁))
    (h₂ : shiftToTargetExponent Format.binary64 em₁.roundedMantissa exponent₁ .exact =
      (em₂, exponent₂)) (hpos : 0 < em₂.mantissa) :
    roundWithAccuracy Format.binary64 sign mantissa exponent accuracy =
      .finite sign em₂.mantissa exponent₂ hpos := by
  simp only [roundWithAccuracy, h₁, h₂, hpos.ne', dif_neg, not_false_eq_true]

/-- A number is rounded to the double that is next to it. -/
theorem roundWithAccuracy_eq (sign : Sign) {mantissa : ℕ} {exponent : ℤ} {accuracy : Accuracy}
    (h : Canonical m q) (hx : Nearest m q x)
    (hstands : Stands (.ofMantissaAndAccuracy mantissa accuracy) (x / 2 ^ exponent))
    (hle : exponent ≤ max (mantissa.log2 + 1 + exponent - 53) (-1074)) :
    roundWithAccuracy Format.binary64 sign mantissa exponent accuracy = .finite sign m q h.pos := by
  rcases h.exponent_of_stands hx hstands hle with ht | ⟨ht, rfl, hq, hlt⟩
  · -- the double's own exponent: the mantissa fits after rounding, and the second shift is none
    have hround := (hstands.shiftTo (ht ▸ hle)).rounded hx.roundsTo
    have hsecond := shiftToTargetExponent_canonical h
    rw [← hround] at hsecond
    have hfirst := @shiftToTargetExponent_eq _ _ _ accuracy ht (ht ▸ hle)
    rw [roundWithAccuracy_of_shifts hfirst hsecond (hround ▸ h.pos)]
    simp only [hround]
  · -- one exponent below: rounding gives `2 ^ 53`, which the second shift brings back
    have hround := (hstands.shiftTo (ht ▸ hle)).rounded (hx.roundsTo_below hq hlt)
    have hsecond := shiftToTargetExponent_power hq
    rw [← hround] at hsecond
    exact roundWithAccuracy_of_shifts (shiftToTargetExponent_eq ht (ht ▸ hle)) hsecond h.pos

/-! ## Operations -/

theorem stands_exact {n : ℕ} {y : ℚ} (h : y = n) :
    Stands (.ofMantissaAndAccuracy n .exact) y := by
  refine ⟨0, rfl, ?_⟩
  rw [h, add_zero]
  rfl

/-- A mantissa is given bits enough before it is rounded. -/
theorem exists_round (s : Sign) {n : ℕ} (hn : 0 < n) (e : ℤ) :
    ∃ mantissa exponent,
      UnpackedFloat.round Format.binary64 s n e =
        roundWithAccuracy Format.binary64 s mantissa exponent .exact ∧
      Stands (.ofMantissaAndAccuracy mantissa .exact) (n * 2 ^ e / 2 ^ exponent) ∧
      exponent ≤ max ((mantissa.log2 : ℤ) + 1 + exponent - 53) (-1074) := by
  generalize ht : Format.binary64.targetExponent (totalExponent n e) = t
  rw [targetExponent_eq] at ht
  generalize hk : (e - t).toNat = k
  have hsplit : e = e - k + (k : ℤ) := by omega
  refine ⟨n <<< k, e - k, ?_, stands_exact ?_, ?_⟩
  · simp only [UnpackedFloat.round, decreaseExponent, targetExponent_eq, ht, hk]
  · -- the bits that are added are zero
    conv_lhs => rw [hsplit, two_zpow_add, ← hsplit]
    rw [Nat.shiftLeft_eq]
    push_cast
    field_simp
  · have hlog : n.log2 + k ≤ (n <<< k).log2 := by
      rw [Nat.shiftLeft_eq]
      apply (Nat.le_log2 (by positivity)).mpr
      calc 2 ^ (n.log2 + k) = 2 ^ n.log2 * 2 ^ k := pow_add _ _ _
        _ ≤ n * 2 ^ k := Nat.mul_le_mul_right _ (Nat.log2_self_le hn.ne')
    omega

/-- A number is rounded to the double next to it, whatever the exponent at which it is given. -/
theorem round_eq (s : Sign) {n : ℕ} {e : ℤ} (hn : 0 < n) (h : Canonical m q)
    (hx : Nearest m q (n * 2 ^ e)) :
    UnpackedFloat.round Format.binary64 s n e = .finite s m q h.pos := by
  obtain ⟨mantissa, exponent, hround, hstands, hbits⟩ := exists_round s hn e
  rw [hround]
  exact roundWithAccuracy_eq s h hx hstands hbits

/-- The product of two mantissas is that of the numbers. -/
theorem stands_product (m₁ m₂ : ℕ) (e₁ e₂ : ℤ) :
    Stands (.ofMantissaAndAccuracy (m₁ * m₂) .exact)
      ((m₁ * 2 ^ e₁ * (m₂ * 2 ^ e₂) : ℚ) / 2 ^ (e₁ + e₂)) := by
  apply stands_exact
  rw [zpow_add₀ (by norm_num)]
  push_cast
  field_simp

/-- A product with enough bits is rounded once. -/
theorem mul_eq {s₁ s₂ : Sign} {m₁ m₂ : ℕ} {e₁ e₂ : ℤ} (h₁ : 0 < m₁) (h₂ : 0 < m₂)
    (h : Canonical m q) (hx : Nearest m q (m₁ * 2 ^ e₁ * (m₂ * 2 ^ e₂)))
    (hbits : 2 ^ 52 ≤ m₁ * m₂) :
    UnpackedFloat.mul Format.binary64 (.finite s₁ m₁ e₁ h₁) (.finite s₂ m₂ e₂ h₂) =
      .finite (s₁ * s₂) m q h.pos := by
  change roundWithAccuracy _ _ (m₁ * m₂) (e₁ + e₂) .exact = _
  apply roundWithAccuracy_eq _ h hx (stands_product ..)
  have hlog : 52 ≤ (m₁ * m₂).log2 := (Nat.le_log2 (Nat.mul_pos h₁ h₂).ne').mpr hbits
  omega

theorem stands_fraction {n d k : ℕ} (hd : 0 < d) (hk : k < d) :
    Stands (.ofMantissaAndAccuracy n (accuracyOfFraction k d)) (n + k / d) := by
  have hd' : (0 : ℚ) < d := by exact_mod_cast hd
  have hone : (k : ℚ) / d < 1 := (div_lt_one hd').mpr (by exact_mod_cast hk)
  unfold accuracyOfFraction
  by_cases hzero : k = 0
  · rw [if_pos hzero, hzero]
    exact stands_exact (by simp)
  · rw [if_neg hzero]
    have hpos : (0 : ℚ) < k / d := by
      apply div_pos _ hd'
      exact_mod_cast Nat.pos_of_ne_zero hzero
    rcases lt_trichotomy (2 * k) d with hlt | heq | hgt
    · rw [Nat.compare_eq_lt.mpr hlt]
      have hlt' : (2 : ℚ) * k < d := by exact_mod_cast hlt
      refine ⟨k / d, ⟨hpos, ?_⟩, rfl⟩
      rw [div_lt_div_iff₀ hd' (by norm_num)]
      linarith
    · rw [Nat.compare_eq_eq.mpr heq]
      have heq' : (2 : ℚ) * k = d := by exact_mod_cast heq
      refine ⟨k / d, ?_, rfl⟩
      change (k : ℚ) / d = 1 / 2
      rw [div_eq_div_iff hd'.ne' (by norm_num)]
      linarith
    · rw [Nat.compare_eq_gt.mpr hgt]
      have hgt' : (d : ℚ) < 2 * k := by exact_mod_cast hgt
      refine ⟨k / d, ⟨?_, hone⟩, rfl⟩
      rw [div_lt_div_iff₀ (by norm_num) hd']
      linarith

/-- A quotient of mantissas has enough bits once the dividend is shifted far enough. -/
theorem le_quotient {m₁ m₂ k : ℕ} (h₁ : 0 < m₁) (h₂ : 0 < m₂) (hk : m₂.log2 + 53 ≤ m₁.log2 + k) :
    2 ^ 52 ≤ (m₁ <<< k) / m₂ := by
  rw [Nat.le_div_iff_mul_le h₂, Nat.shiftLeft_eq]
  calc 2 ^ 52 * m₂ ≤ 2 ^ 52 * 2 ^ (m₂.log2 + 1) := Nat.mul_le_mul_left _ Nat.lt_log2_self.le
    _ = 2 ^ (m₂.log2 + 53) := by rw [← pow_add]; congr 1; omega
    _ ≤ 2 ^ (m₁.log2 + k) := Nat.pow_le_pow_right (by norm_num) hk
    _ = 2 ^ m₁.log2 * 2 ^ k := pow_add _ _ _
    _ ≤ m₁ * 2 ^ k := Nat.mul_le_mul_right _ (Nat.log2_self_le h₁.ne')

/-- A quotient of numbers is a quotient of integers with the part that the remainder adds. -/
theorem quotient_eq {m₁ m₂ k : ℕ} {e₁ e₂ t : ℤ} (h₂ : 0 < m₂) (he : e₁ = e₂ + t + k) :
    (m₁ * 2 ^ e₁ / (m₂ * 2 ^ e₂) / 2 ^ t : ℚ) =
      ((m₁ <<< k) / m₂ : ℕ) + ((m₁ <<< k) % m₂ : ℕ) / m₂ := by
  have hd : (m₂ : ℚ) ≠ 0 := by exact_mod_cast h₂.ne'
  have hdivmod : ((m₁ <<< k : ℕ) : ℚ) = m₂ * ((m₁ <<< k) / m₂ : ℕ) + ((m₁ <<< k) % m₂ : ℕ) := by
    exact_mod_cast (Nat.div_add_mod (m₁ <<< k) m₂).symm
  have hpow : (2 : ℚ) ^ e₁ = 2 ^ k * (2 ^ e₂ * 2 ^ t) := by
    rw [he, two_zpow_add, zpow_add₀ (by norm_num)]
  have hshift : ((m₁ <<< k : ℕ) : ℚ) = m₁ * 2 ^ k := by
    rw [Nat.shiftLeft_eq]
    push_cast
    ring
  calc (m₁ * 2 ^ e₁ / (m₂ * 2 ^ e₂) / 2 ^ t : ℚ) = (m₁ <<< k : ℕ) / m₂ := by
        rw [hpow, hshift]
        field_simp
    _ = ((m₁ <<< k) / m₂ : ℕ) + ((m₁ <<< k) % m₂ : ℕ) / m₂ := by
        rw [hdivmod]
        field_simp

/-- A quotient is given bits enough before it is rounded. -/
theorem exists_div (s₁ s₂ : Sign) {m₁ m₂ : ℕ} (e₁ e₂ : ℤ) (h₁ : 0 < m₁) (h₂ : 0 < m₂) :
    ∃ mantissa exponent accuracy,
      UnpackedFloat.div Format.binary64 (.finite s₁ m₁ e₁ h₁) (.finite s₂ m₂ e₂ h₂) =
        roundWithAccuracy Format.binary64 (s₁ / s₂) mantissa exponent accuracy ∧
      Stands (.ofMantissaAndAccuracy mantissa accuracy)
        ((m₁ * 2 ^ e₁ / (m₂ * 2 ^ e₂) : ℚ) / 2 ^ exponent) ∧
      exponent ≤ max ((mantissa.log2 : ℤ) + 1 + exponent - 53) (-1074) := by
  generalize ht : min (e₁ - e₂) (max (m₁.log2 + 1 + e₁ - (m₂.log2 + 1 + e₂) - 53) (-1074)) = t
  have hcore : divCore Format.binary64 m₁ e₁ m₂ e₂ =
      ((m₁ <<< (e₁ - e₂ - t).toNat) / m₂, t,
        accuracyOfFraction ((m₁ <<< (e₁ - e₂ - t).toNat) % m₂) m₂) := by
    have htarget : min (e₁ - e₂) (Format.binary64.targetExponent
        (totalExponent m₁ e₁ - totalExponent m₂ e₂)) = t := by
      rw [← ht]
      simp [Format.targetExponent, totalExponent, Format.mantissaBits, Format.minExponent]
    simp only [divCore, htarget]
  generalize hk : (e₁ - e₂ - t).toNat = k at hcore
  refine ⟨(m₁ <<< k) / m₂, t, accuracyOfFraction ((m₁ <<< k) % m₂) m₂, ?_, ?_, ?_⟩
  · simp only [UnpackedFloat.div, hcore]
  · rw [quotient_eq (t := t) (k := k) h₂ (by omega)]
    exact stands_fraction h₂ (Nat.mod_lt _ h₂)
  · -- unless the quotient is rounded at the least exponent, it has all the bits of a mantissa
    by_cases hsmall : t ≤ -1074
    · omega
    · have hbits := le_quotient h₁ h₂ (k := k) (by omega)
      have hlog : 52 ≤ ((m₁ <<< k) / m₂).log2 :=
        (Nat.le_log2 (by omega)).mpr hbits
      omega

/-- A quotient is rounded once. -/
theorem div_eq {s₁ s₂ : Sign} {m₁ m₂ : ℕ} {e₁ e₂ : ℤ} (h₁ : 0 < m₁) (h₂ : 0 < m₂)
    (h : Canonical m q) (hx : Nearest m q (m₁ * 2 ^ e₁ / (m₂ * 2 ^ e₂))) :
    UnpackedFloat.div Format.binary64 (.finite s₁ m₁ e₁ h₁) (.finite s₂ m₂ e₂ h₂) =
      .finite (s₁ / s₂) m q h.pos := by
  obtain ⟨mantissa, exponent, accuracy, hdiv, hstands, hbits⟩ := exists_div s₁ s₂ e₁ e₂ h₁ h₂
  rw [hdiv]
  exact roundWithAccuracy_eq _ h hx hstands hbits

end Landform
