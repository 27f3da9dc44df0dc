import Landform.Proofs.Number.Value

/-! # Rounding and the grid

The numbers that doubles could hold if their exponents had no upper end form a grid. Rounding never
passes a number of the grid: what is at most such a number is rounded to something at most it. So a
bound on an exact result that is on the grid is a bound on the rounded one, however the bits fall. A
result that is finite comes from operands that are. -/

namespace Landform

open Float.Model Float.Model.UnpackedFloat

/-! ## The grid -/

/-- The integers of up to 53 bits, and what comes of them by powers of two from the least exponent
on. -/
def OnGrid (b : ℚ) : Prop := ∃ n e : ℤ, n.natAbs ≤ 2 ^ 53 ∧ -1074 ≤ e ∧ b = n * 2 ^ e

theorem OnGrid.neg {b : ℚ} (h : OnGrid b) : OnGrid (-b) := by
  obtain ⟨n, e, hn, he, rfl⟩ := h
  refine ⟨-n, e, by omega, he, ?_⟩
  push_cast
  ring

theorem onGrid_intCast {n : ℤ} (h : n.natAbs ≤ 2 ^ 53) : OnGrid n :=
  ⟨n, 0, h, by norm_num, by rw [zpow_zero, mul_one]⟩

theorem abs_intCast_lt {n : ℤ} (h : n.natAbs ≤ 2 ^ 53) : |(n : ℚ)| < 2 ^ 1024 := by
  have hle : |(n : ℚ)| ≤ 2 ^ 53 := by
    rw [← Int.cast_abs, Int.abs_eq_natAbs]
    exact_mod_cast h
  exact hle.trans_lt (pow_lt_pow_right₀ (by norm_num) (by norm_num))

theorem onGrid_natCast {n : ℕ} (h : n ≤ 2 ^ 53) : OnGrid n := by
  have hint : OnGrid ((n : ℤ) : ℚ) := onGrid_intCast h
  rwa [Int.cast_natCast] at hint

theorem onGrid_zero : OnGrid 0 := by
  have h := onGrid_natCast (n := 0) (by norm_num)
  rwa [Nat.cast_zero] at h

/-- One number is rounded to another: none of the grid lies strictly on different sides of them. -/
structure Rounds (exact rounded : ℚ) : Prop where
  le : ∀ {b}, OnGrid b → exact ≤ b → rounded ≤ b
  ge : ∀ {b}, OnGrid b → b ≤ exact → b ≤ rounded

theorem Rounds.refl (x : ℚ) : Rounds x x := ⟨fun _ h => h, fun _ h => h⟩

theorem Rounds.neg {x v : ℚ} (h : Rounds x v) : Rounds (-x) (-v) where
  le hb hle := neg_le.mp (h.ge hb.neg (neg_le.mp hle))
  ge hb hle := le_neg.mp (h.le hb.neg (le_neg.mp hle))

/-- What is on the grid is not changed. -/
theorem Rounds.eq {x v : ℚ} (h : Rounds x v) (hx : OnGrid x) : v = x :=
  le_antisymm (h.le hx le_rfl) (h.ge hx le_rfl)

theorem Rounds.magnitude_le {x v b : ℚ} (h : Rounds x v) (hb : OnGrid b) (hx : |x| ≤ b) :
    |v| ≤ b := by
  rw [abs_le] at hx ⊢
  exact ⟨h.ge hb.neg hx.1, h.le hb hx.2⟩

/-! ## Rounding a magnitude -/

/-- An integer on one side of a number is on that side of the nearest integer too. -/
theorem RoundsTo.le_int {x : ℚ} {r : ℕ} (h : RoundsTo x r) {k : ℤ} (hk : x ≤ k) : (r : ℤ) ≤ k := by
  have hlt : ((r : ℤ) : ℚ) < (k + 1 : ℤ) := by
    have hlower := h.lower
    push_cast
    linarith
  exact Int.lt_add_one_iff.mp (Int.cast_lt.mp hlt)

theorem RoundsTo.ge_int {x : ℚ} {r : ℕ} (h : RoundsTo x r) {k : ℤ} (hk : k ≤ x) : k ≤ (r : ℤ) := by
  have hlt : (k : ℚ) < ((r : ℤ) + 1 : ℤ) := by
    have hupper := h.upper
    push_cast
    linarith
  exact Int.lt_add_one_iff.mp (Int.cast_lt.mp hlt)

/-- What is lost tells to which integer a number is rounded. -/
theorem Stands.roundsTo {em : ExtendedMantissa} {x : ℚ} (h : Stands em x) :
    RoundsTo x em.roundedMantissa := by
  obtain ⟨n, half, rest⟩ := em
  obtain ⟨f, hf, rfl⟩ := h
  cases half <;> cases rest <;> simp only [Lost] at hf <;>
    simp only [ExtendedMantissa.roundedMantissa, ExtendedMantissa.accuracy,
      Accuracy.roundToNearestEven]
  · subst hf
    exact ⟨by linarith, by linarith, by rintro (h | h) <;> linarith⟩
  · exact ⟨by linarith, by linarith, by rintro (h | h) <;> linarith⟩
  · -- a tie goes to the even one of two integers
    subst hf
    rcases Nat.mod_two_eq_zero_or_one n with hmod | hmod <;> rw [hmod]
    · exact ⟨by push_cast; linarith, by push_cast; linarith, fun _ => by omega⟩
    · exact ⟨by push_cast; linarith, by push_cast; linarith, fun _ => by omega⟩
  · refine ⟨by push_cast; linarith, by push_cast; linarith, ?_⟩
    push_cast
    rintro (h | h) <;> linarith

/-- At lower exponents the grid holds nothing beyond the least mantissa of an exponent. -/
theorem grid_le_of_exponent_lt {n e t : ℤ} (hn : n.natAbs ≤ 2 ^ 53) (ht : e < t) :
    (n : ℚ) * 2 ^ e ≤ 2 ^ 52 * 2 ^ t := by
  have hcast : (n : ℚ) ≤ 2 ^ 53 := by
    have hint : n ≤ 2 ^ 53 := by omega
    exact_mod_cast hint
  calc (n : ℚ) * 2 ^ e ≤ 2 ^ 53 * 2 ^ e := mul_le_mul_of_nonneg_right hcast (by positivity)
    _ = 2 ^ 52 * 2 ^ (e + (1 : ℕ)) := by
        rw [two_zpow_add]
        ring
    _ ≤ 2 ^ 52 * 2 ^ t :=
        mul_le_mul_of_nonneg_left (zpow_le_zpow_right₀ (by norm_num) (by omega)) (by positivity)

/-- The magnitude `x` is rounded to `r * 2 ^ t`. -/
structure RoundedAt (x : ℚ) (r : ℕ) (t : ℤ) : Prop where
  least : -1074 ≤ t
  rounds : RoundsTo (x / 2 ^ t) r
  le : r ≤ 2 ^ 53
  normal : t = -1074 ∨ 2 ^ 52 * 2 ^ t ≤ x

namespace RoundedAt

variable {x : ℚ} {r : ℕ} {t : ℤ} (h : RoundedAt x r t)
include h

theorem normal_le : t = -1074 ∨ 2 ^ 52 ≤ r := by
  refine h.normal.imp_right fun hx => ?_
  have hpow : (0 : ℚ) < 2 ^ t := by positivity
  have hk : ((2 ^ 52 : ℤ) : ℚ) ≤ x / 2 ^ t := by
    rw [le_div_iff₀ hpow]
    push_cast
    exact hx
  exact_mod_cast h.rounds.ge_int hk

theorem toRounds : Rounds x (r * 2 ^ t) := by
  have hpow : (0 : ℚ) < 2 ^ t := by positivity
  -- a number of the grid at a high enough exponent is an integer at that of the result
  have hint (n e : ℤ) (ht : t ≤ e) : ∃ k : ℤ, (n : ℚ) * 2 ^ e = k * 2 ^ t := by
    refine ⟨n * 2 ^ (e - t).toNat, ?_⟩
    have hsplit : e = t + ((e - t).toNat : ℤ) := by omega
    conv_lhs => rw [hsplit, two_zpow_add]
    push_cast
    ring
  constructor
  · rintro b ⟨n, e, hn, he, rfl⟩ hb
    rcases le_or_gt t e with ht | ht
    · obtain ⟨k, hk⟩ := hint n e ht
      rw [hk] at hb ⊢
      have hr := h.rounds.le_int ((div_le_iff₀ hpow).mpr hb)
      exact mul_le_mul_of_nonneg_right (by exact_mod_cast hr) hpow.le
    · -- then the number is the least of its exponent, and so is the bound
      have hx := h.normal.resolve_left (by omega)
      have hgrid := grid_le_of_exponent_lt hn ht
      have hr := h.rounds.le_int (k := 2 ^ 52) <| (div_le_iff₀ hpow).mpr <| by
        push_cast
        exact hb.trans hgrid
      have hr' : (r : ℚ) ≤ 2 ^ 52 := by exact_mod_cast hr
      exact (mul_le_mul_of_nonneg_right hr' hpow.le).trans (hx.trans hb)
  · rintro b ⟨n, e, hn, he, rfl⟩ hb
    rcases le_or_gt t e with ht | ht
    · obtain ⟨k, hk⟩ := hint n e ht
      rw [hk] at hb ⊢
      have hr := h.rounds.ge_int ((le_div_iff₀ hpow).mpr hb)
      exact mul_le_mul_of_nonneg_right (by exact_mod_cast hr) hpow.le
    · have hr : (2 : ℚ) ^ 52 ≤ r := by exact_mod_cast h.normal_le.resolve_left (by omega)
      exact (grid_le_of_exponent_lt hn ht).trans (mul_le_mul_of_nonneg_right hr hpow.le)

end RoundedAt

/-! ## Unpacked results -/

/-- What an operation leaves: a mantissa of 53 bits, or fewer at the least exponent. The exponent
has no upper end. -/
def Settled : UnpackedFloat → Prop
  | .finite _ m q _ => m < 2 ^ 53 ∧ -1074 ≤ q ∧ (2 ^ 52 ≤ m ∨ q = -1074)
  | _ => True

theorem isFinite_roundWithAccuracy (s : Sign) (mantissa : ℕ) (exponent : ℤ) (accuracy : Accuracy) :
    (roundWithAccuracy Format.binary64 s mantissa exponent accuracy).isFinite = true := by
  dsimp only [roundWithAccuracy]
  split <;> rfl

theorem Canonical.settled {m : ℕ} {q : ℤ} (h : Canonical m q) (s : Sign) :
    Settled (.finite s m q h.pos) := ⟨h.lt, h.least, h.normal⟩

/-- A mantissa that fits is kept at its exponent. -/
theorem shiftToTargetExponent_self {r : ℕ} {t : ℤ} (hr : r < 2 ^ 53) (ht : -1074 ≤ t) :
    shiftToTargetExponent Format.binary64 r t .exact = (⟨r, false, false⟩, t) := by
  have hlog : r.log2 < 53 := by
    rcases Nat.eq_zero_or_pos r with rfl | hpos
    · rw [Nat.log2_zero]
      norm_num
    · exact (Nat.log2_lt hpos.ne').mpr hr
  have hnone : (max ((r.log2 : ℤ) + 1 + t - 53) (-1074) - t).toNat = 0 := by omega
  simp only [shiftToTargetExponent, shiftToExponent, targetExponent_eq, hnone, Nat.cast_zero,
    add_zero]
  rfl

theorem sign_mul_apply (s : Sign) (r : ℕ) (t : ℤ) :
    ((s.apply (r : ℤ) : ℤ) : ℚ) * 2 ^ t = (s.apply 1 : ℤ) * (r * 2 ^ t) := by
  rw [apply_eq_mul]
  push_cast
  ring

theorem Rounds.signed {x v : ℚ} (h : Rounds x v) (s : Sign) :
    Rounds ((s.apply 1 : ℤ) * x) ((s.apply 1 : ℤ) * v) := by
  cases s with
  | positive =>
    change Rounds ((1 : ℤ) * x) ((1 : ℤ) * v)
    rw [Int.cast_one, one_mul, one_mul]
    exact h
  | negative =>
    change Rounds ((-1 : ℤ) * x) ((-1 : ℤ) * v)
    rw [Int.cast_neg, Int.cast_one, neg_one_mul, neg_one_mul]
    exact h.neg

/-- From a rounded mantissa the second shift makes a settled result of the same value. -/
theorem roundWithAccuracy_of_rounded {s : Sign} {mantissa : ℕ} {exponent t : ℤ}
    {accuracy : Accuracy} {em : ExtendedMantissa}
    (hfirst : shiftToTargetExponent Format.binary64 mantissa exponent accuracy = (em, t))
    (hle : em.roundedMantissa ≤ 2 ^ 53) (hleast : -1074 ≤ t)
    (hnormal : t = -1074 ∨ 2 ^ 52 ≤ em.roundedMantissa) :
    Settled (roundWithAccuracy Format.binary64 s mantissa exponent accuracy) ∧
      unpackedValue (roundWithAccuracy Format.binary64 s mantissa exponent accuracy) =
        (s.apply 1 : ℤ) * (em.roundedMantissa * 2 ^ t) := by
  rcases hle.lt_or_eq with hlt | heq
  · have hsecond := shiftToTargetExponent_self hlt hleast
    rcases Nat.eq_zero_or_pos em.roundedMantissa with hzero | hpos
    · have hresult :
          roundWithAccuracy Format.binary64 s mantissa exponent accuracy = .zero s := by
        simp only [roundWithAccuracy, hfirst, hsecond]
        exact dif_pos hzero
      rw [hresult, hzero, Nat.cast_zero, zero_mul, mul_zero]
      exact ⟨trivial, rfl⟩
    · rw [roundWithAccuracy_of_shifts hfirst hsecond hpos]
      exact ⟨⟨hlt, hleast, hnormal.symm⟩, sign_mul_apply ..⟩
  · -- a mantissa that has carried over
    have hsecond := shiftToTargetExponent_power (q := t + 1) (by omega)
    rw [add_sub_cancel_right, ← heq] at hsecond
    rw [roundWithAccuracy_of_shifts hfirst hsecond (by positivity)]
    refine ⟨⟨by norm_num, by omega, .inl le_rfl⟩, ?_⟩
    have hcarry : ((2 ^ 52 : ℕ) : ℚ) * 2 ^ (t + 1) = em.roundedMantissa * 2 ^ t := by
      rw [heq, zpow_add_one₀ (by norm_num)]
      push_cast
      ring
    rw [← hcarry]
    exact sign_mul_apply ..

/-- A magnitude that is given to some accuracy, with enough bits, is rounded. -/
theorem roundWithAccuracy_rounds (s : Sign) {mantissa : ℕ} {exponent : ℤ} {accuracy : Accuracy}
    {x : ℚ} (hstands : Stands (.ofMantissaAndAccuracy mantissa accuracy) (x / 2 ^ exponent))
    (hbits : exponent ≤ max (mantissa.log2 + 1 + exponent - 53) (-1074)) :
    Settled (roundWithAccuracy Format.binary64 s mantissa exponent accuracy) ∧
      Rounds ((s.apply 1 : ℤ) * x)
        (unpackedValue (roundWithAccuracy Format.binary64 s mantissa exponent accuracy)) := by
  generalize ht : max ((mantissa.log2 : ℤ) + 1 + exponent - 53) (-1074) = t at hbits
  have hfirst := @shiftToTargetExponent_eq _ _ _ accuracy ht hbits
  have hrounds := (hstands.shiftTo hbits).roundsTo
  generalize hem : ExtendedMantissa.ofMantissaAndAccuracy mantissa accuracy >>>
    (t - exponent).toNat = em at hfirst hrounds
  obtain ⟨hlo, hhi⟩ := hstands.ofMantissa_bounds
  have hpow : (0 : ℚ) < 2 ^ exponent := by positivity
  rw [le_div_iff₀ hpow] at hlo
  rw [div_lt_iff₀ hpow] at hhi
  have hat : RoundedAt x em.roundedMantissa t := by
    refine ⟨by omega, hrounds, ?_, ?_⟩
    · have hlog : (mantissa : ℚ) + 1 ≤ 2 ^ (mantissa.log2 + 1) := by
        exact_mod_cast Nat.lt_log2_self (n := mantissa)
      have hx : x ≤ ((2 ^ 53 : ℤ) : ℚ) * 2 ^ t := by
        calc x ≤ (mantissa + 1) * 2 ^ exponent := hhi.le
          _ ≤ 2 ^ (mantissa.log2 + 1) * 2 ^ exponent := mul_le_mul_of_nonneg_right hlog hpow.le
          _ = 2 ^ (exponent + (mantissa.log2 + 1 : ℕ)) := (two_zpow_add _ _).symm
          _ ≤ 2 ^ (t + (53 : ℕ)) := zpow_le_zpow_right₀ (by norm_num) (by push_cast; omega)
          _ = ((2 ^ 53 : ℤ) : ℚ) * 2 ^ t := by
              rw [two_zpow_add]
              norm_num
      exact_mod_cast hrounds.le_int ((div_le_iff₀ (by positivity)).mpr hx)
    · refine or_iff_not_imp_left.mpr fun hleast => ?_
      have hpos : mantissa ≠ 0 := by
        rintro rfl
        rw [Nat.log2_zero] at ht
        omega
      have hlog : (2 : ℚ) ^ mantissa.log2 ≤ mantissa := by
        exact_mod_cast Nat.log2_self_le hpos
      have hexponent : t + (52 : ℕ) = exponent + (mantissa.log2 : ℕ) := by
        push_cast
        omega
      calc (2 : ℚ) ^ 52 * 2 ^ t = 2 ^ (t + (52 : ℕ)) := (two_zpow_add _ _).symm
        _ = 2 ^ mantissa.log2 * 2 ^ exponent := by rw [hexponent, two_zpow_add]
        _ ≤ mantissa * 2 ^ exponent := mul_le_mul_of_nonneg_right hlog hpow.le
        _ ≤ x := hlo
  obtain ⟨hsettled, hvalue⟩ :=
    roundWithAccuracy_of_rounded (s := s) hfirst hat.le hat.least hat.normal_le
  rw [hvalue]
  exact ⟨hsettled, hat.toRounds.signed s⟩

end Landform
