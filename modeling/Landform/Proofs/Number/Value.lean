import Landform.Proofs.Number.Integer
import Landform.Proofs.Number.Order

/-! # What doubles stand for

A finite double stands for a rational number. The order of finite doubles is that of these numbers,
and an integer that a double can hold stands for itself. -/

namespace Landform

open Float.Model Float.Model.UnpackedFloat

/-! ## Values -/

/-- The number that an unpacked double stands for, if it is finite. -/
def unpackedValue : UnpackedFloat → ℚ
  | .finite s m q _ => (s.apply m : ℤ) * 2 ^ q
  | _ => 0

/-- The number that a double stands for, if it is finite. -/
def Double.value (x : Float) : ℚ := unpackedValue x.toModel.unpack

open Double (value)

theorem unpackedValue_positive {m : ℕ} {q : ℤ} (hpos : 0 < m) :
    unpackedValue (.finite .positive m q hpos) = m * 2 ^ q := rfl

theorem unpackedValue_negative {m : ℕ} {q : ℤ} (hpos : 0 < m) :
    unpackedValue (.finite .negative m q hpos) = -(m * 2 ^ q) := by
  change ((-(m : ℤ) : ℤ) : ℚ) * 2 ^ q = _
  push_cast
  ring

theorem abs_unpackedValue (s : Sign) {m : ℕ} {q : ℤ} (hpos : 0 < m) :
    |unpackedValue (.finite s m q hpos)| = m * 2 ^ q := by
  have hnonneg : (0 : ℚ) ≤ m * 2 ^ q := by positivity
  cases s with
  | positive => rw [unpackedValue_positive, abs_of_nonneg hnonneg]
  | negative => rw [unpackedValue_negative, abs_neg, abs_of_nonneg hnonneg]

/-- A finite double is a zero, or it has a canonical form. -/
theorem Double.unpack_cases {x : Float} (h : x.isFinite = true) :
    (∃ s, x.toModel.unpack = .zero s) ∨
      ∃ s m q, ∃ h : Canonical m q, x.toModel.unpack = .finite s m q h.pos := by
  have hfinite : x.toModel.unpack.isFinite = true := h
  cases hx : x.toModel.unpack with
  | infinity s =>
    rw [hx] at hfinite
    cases hfinite
  | notANumber =>
    rw [hx] at hfinite
    cases hfinite
  | zero s => exact .inl ⟨s, rfl⟩
  | finite s m q hpos => exact .inr ⟨s, m, q, unpack_canonical hx, rfl⟩

theorem Double.isNaN_of_isFinite {x : Float} (h : x.isFinite = true) : x.isNaN = false := by
  change x.toModel.unpack.isNaN = false
  obtain ⟨s, hx⟩ | ⟨s, m, q, hcanonical, hx⟩ := unpack_cases h
  · rw [hx]
    rfl
  · rw [hx]
    rfl

/-! ## Order -/

section Order

variable {m m' : ℕ} {q q' : ℤ}

theorem Canonical.value_pos (h : Canonical m q) : (0 : ℚ) < m * 2 ^ q :=
  mul_pos (Nat.cast_pos.mpr h.pos) (by positivity)

/-- Of two canonical forms the one with the greater exponent stands for more. -/
theorem Canonical.value_lt_of_exponent (h : Canonical m q) (h' : Canonical m' q') (hq : q < q') :
    (m : ℚ) * 2 ^ q < m' * 2 ^ q' := by
  have hpow : (0 : ℚ) < 2 ^ q := by positivity
  have hleast := h.least
  have hnormal : 2 ^ 52 ≤ m' := h'.normal.resolve_right (by omega)
  have hm : (m : ℚ) < 2 ^ 53 := by exact_mod_cast h.lt
  have hm' : (2 : ℚ) ^ 52 ≤ m' := by exact_mod_cast hnormal
  calc (m : ℚ) * 2 ^ q < 2 ^ 53 * 2 ^ q := mul_lt_mul_of_pos_right hm hpow
    _ = 2 ^ 52 * 2 ^ (q + (1 : ℕ)) := by
        rw [two_zpow_add]
        ring
    _ ≤ 2 ^ 52 * 2 ^ q' :=
        mul_le_mul_of_nonneg_left (zpow_le_zpow_right₀ (by norm_num) (by omega)) (by positivity)
    _ ≤ m' * 2 ^ q' := mul_le_mul_of_nonneg_right hm' (by positivity)

theorem Canonical.value_lt_of_lex (h : Canonical m q) (h' : Canonical m' q')
    (hlex : q < q' ∨ q = q' ∧ (m : ℤ) < m') : (m : ℚ) * 2 ^ q < m' * 2 ^ q' := by
  rcases hlex with hq | ⟨rfl, hm⟩
  · exact h.value_lt_of_exponent h' hq
  · exact mul_lt_mul_of_pos_right (by exact_mod_cast hm) (by positivity)

end Order

/-- What a finite double has a greater rank than it also exceeds. -/
theorem Double.value_lt_of_rank {x y : Float} (hx : x.isFinite = true) (hy : y.isFinite = true)
    (h : rank x.toModel.unpack < rank y.toModel.unpack) : value x < value y := by
  unfold value
  obtain ⟨s, hx⟩ | ⟨s, m, q, hc, hx⟩ := unpack_cases hx <;>
    obtain ⟨s', hy⟩ | ⟨s', m', q', hc', hy⟩ := unpack_cases hy <;> rw [hx, hy] at h ⊢
  · exact absurd h (lt_irrefl _)
  · cases s' with
    | positive => exact hc'.value_pos
    | negative => simp [rank, Prod.Lex.toLex_lt_toLex] at h
  · cases s with
    | positive => simp [rank, Prod.Lex.toLex_lt_toLex] at h
    | negative =>
      rw [unpackedValue_negative]
      exact neg_lt_zero.mpr hc.value_pos
  · -- with one sign the rank goes by the exponent first and the mantissa second
    cases s <;> cases s' <;> simp only [rank, Prod.Lex.toLex_lt_toLex] at h
    case negative.positive =>
      rw [unpackedValue_negative, unpackedValue_positive]
      exact (neg_lt_zero.mpr hc.value_pos).trans hc'.value_pos
    case positive.negative => omega
    case positive.positive =>
      exact hc.value_lt_of_lex hc' (by omega)
    case negative.negative =>
      rw [unpackedValue_negative, unpackedValue_negative, neg_lt_neg_iff]
      exact hc'.value_lt_of_lex hc (by omega)

theorem Double.value_eq_of_rank {x y : Float} (hx : x.isFinite = true) (hy : y.isFinite = true)
    (h : rank x.toModel.unpack = rank y.toModel.unpack) : value x = value y := by
  unfold value
  obtain ⟨s, hx⟩ | ⟨s, m, q, hc, hx⟩ := unpack_cases hx <;>
    obtain ⟨s', hy⟩ | ⟨s', m', q', hc', hy⟩ := unpack_cases hy <;> rw [hx, hy] at h ⊢
  · rfl
  · cases s' <;> simp [rank] at h
  · cases s <;> simp [rank] at h
  · cases s <;> cases s' <;> simp [rank] at h
    case positive.positive => rw [unpackedValue_positive, unpackedValue_positive, h.1, h.2]
    case negative.negative => rw [unpackedValue_negative, unpackedValue_negative, h.1, h.2]

/-- Finite doubles are ordered as what they stand for. -/
theorem Double.lt_iff_value {x y : Float} (hx : x.isFinite = true) (hy : y.isFinite = true) :
    x < y ↔ value x < value y := by
  rw [lt_iff_rank, and_iff_right ⟨isNaN_of_isFinite hx, isNaN_of_isFinite hy⟩]
  refine ⟨value_lt_of_rank hx hy, fun h => ?_⟩
  rcases lt_trichotomy (rank x.toModel.unpack) (rank y.toModel.unpack) with hlt | heq | hgt
  · exact hlt
  · exact absurd (value_eq_of_rank hx hy heq) h.ne
  · exact absurd (value_lt_of_rank hy hx hgt) h.asymm

theorem Double.le_iff_value {x y : Float} (hx : x.isFinite = true) (hy : y.isFinite = true) :
    x ≤ y ↔ value x ≤ value y := by
  rw [le_iff_rank, and_iff_right ⟨isNaN_of_isFinite hx, isNaN_of_isFinite hy⟩]
  rcases lt_trichotomy (rank x.toModel.unpack) (rank y.toModel.unpack) with hlt | heq | hgt
  · exact iff_of_true hlt.le (value_lt_of_rank hx hy hlt).le
  · exact iff_of_true heq.le (value_eq_of_rank hx hy heq).le
  · exact iff_of_false (not_le.mpr hgt) (not_le.mpr (value_lt_of_rank hy hx hgt))

/-! ## Integers -/

theorem unpackedValue_ofInt {a : ℤ} (hlt : a.natAbs < 2 ^ 53) :
    (UnpackedFloat.ofInt Format.binary64 a).isFinite = true ∧
      unpackedValue (.ofInt Format.binary64 a) = a := by
  rcases Nat.eq_zero_or_pos a.natAbs with hzero | hpos
  · obtain rfl : a = 0 := Int.natAbs_eq_zero.mp hzero
    exact ⟨rfl, Int.cast_zero.symm⟩
  · rw [ofInt_eq hpos hlt]
    exact ⟨rfl, value_signed hpos hlt⟩

/-- An integer of no more than 53 bits stands for itself. -/
theorem Double.value_ofInt {a : ℤ} (hlt : a.natAbs < 2 ^ 53) :
    (Float.ofInt a).isFinite = true ∧ value (Float.ofInt a) = a := by
  have hvalue := unpackedValue_ofInt hlt
  rw [← unpack_ofInt hlt] at hvalue
  exact hvalue

theorem Double.toFloat_eq_ofInt {w : UInt64} (hlt : w.toNat < 2 ^ 53) :
    w.toFloat = Float.ofInt w.toNat := by
  rw [float_ofInt (a := (w.toNat : ℤ)) hlt]
  rfl

theorem Double.value_toFloat {w : UInt64} (hlt : w.toNat < 2 ^ 53) :
    w.toFloat.isFinite = true ∧ value w.toFloat = w.toNat := by
  rw [toFloat_eq_ofInt hlt]
  exact value_ofInt hlt

end Landform
