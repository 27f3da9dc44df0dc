import Landform.Number.Shortest
import Landform.Proofs.Number.Scientific

/-! # Shortest decimals are read back

The search for a shortest decimal ends with one that lies next to its double: on every grid it only
takes such decimals, and the grid of seventeen digits is finer than the doubles are. -/

namespace Landform

variable {m : ℕ} {q : ℤ}

/-! ## Intervals -/

theorem nearest_of_between {x : ℚ} (hlo : (m - gapBelow m q) * 2 ^ q < x)
    (hhi : x < (m + 1 / 2) * 2 ^ q) : Nearest m q x :=
  ⟨hlo.le, hhi.le, fun h => by rcases h with h | h <;> linarith⟩

theorem nearest_iff {x : ℚ} : Nearest m q x ↔
    if m % 2 = 0 then (m - gapBelow m q) * 2 ^ q ≤ x ∧ x ≤ (m + 1 / 2) * 2 ^ q
    else (m - gapBelow m q) * 2 ^ q < x ∧ x < (m + 1 / 2) * 2 ^ q := by
  split
  · rename_i heven
    exact ⟨fun h => ⟨h.lower, h.upper⟩, fun h => ⟨h.1, h.2, fun _ => heven⟩⟩
  · rename_i hodd
    refine ⟨fun h => ⟨?_, ?_⟩, fun h => nearest_of_between h.1 h.2⟩
    · exact lt_of_le_of_ne h.lower fun heq => hodd (h.tie (.inl heq.symm))
    · exact lt_of_le_of_ne h.upper fun heq => hodd (h.tie (.inr heq))

namespace Shortest

/-- A target that stands for a double. -/
structure Target.Of (t : Target) (m : ℕ) (q : ℤ) : Prop where
  pos : (0 : ℚ) < t.denominator
  low : (t.low : ℚ) = (m - gapBelow m q) * 2 ^ q * t.denominator
  value : (t.value : ℚ) = m * 2 ^ q * t.denominator
  high : (t.high : ℚ) = (m + 1 / 2) * 2 ^ q * t.denominator
  closed : t.closed = decide (m % 2 = 0)

theorem Target.of_scale {scale denominator : ℕ} (hm : 0 < m)
    (hpos : 0 < denominator) (hscale : (scale : ℚ) * 4 = 2 ^ q * denominator) :
    Target.Of ⟨(4 * m - if m = 2 ^ 52 ∧ -1074 < q then 1 else 2) * scale, 4 * m * scale,
      (4 * m + 2) * scale, denominator, m % 2 = 0⟩ m q := by
  have hbelow : ((4 * m - if m = 2 ^ 52 ∧ -1074 < q then 1 else 2 : ℕ) : ℚ) =
      4 * (m - gapBelow m q) := by
    unfold gapBelow
    split
    · rw [Nat.cast_sub (by omega)]
      push_cast
      ring
    · rw [Nat.cast_sub (by omega)]
      push_cast
      ring
  refine ⟨by exact_mod_cast hpos, ?_, ?_, ?_, rfl⟩
  · rw [Nat.cast_mul, hbelow]
    linear_combination (m - gapBelow m q) * hscale
  · push_cast
    linear_combination (m : ℚ) * hscale
  · push_cast
    linear_combination (m + 1 / 2 : ℚ) * hscale

theorem Target.of_ofBinary (hm : 0 < m) : (Target.ofBinary m q).Of m q := by
  unfold Target.ofBinary
  by_cases hq : 0 ≤ q
  · have hpow : (2 : ℚ) ^ q = 2 ^ q.toNat := zpow_of_nonneg hq
    rw [if_pos hq]
    apply Target.of_scale hm (by norm_num)
    rw [hpow]
    norm_num
  · have hpow : (2 : ℚ) ^ q * 2 ^ (-q).toNat = 1 := zpow_mul_of_neg (by norm_num) hq
    rw [if_neg hq]
    apply Target.of_scale hm (Nat.mul_pos (by norm_num) (Nat.pow_pos (by norm_num)))
    change ((1 : ℕ) : ℚ) * 4 = 2 ^ q * (4 * 2 ^ (-q).toNat : ℕ)
    push_cast
    linear_combination -4 * hpow

/-! ## Grids -/

section Grids

variable {t : Target} (ht : t.Of m q)
include ht

omit ht in
/-- A decimal and a unit, over a common denominator. -/
theorem Target.accepts_scaled (t : Target) (d : ℕ) (e : ℤ) :
    ∃ point unit : ℕ, 0 < unit ∧ (point : ℚ) = d * 10 ^ e * t.denominator * unit ∧
      (t.accepts d e = true ↔ if t.closed then t.low * unit ≤ point ∧ point ≤ t.high * unit
        else t.low * unit < point ∧ point < t.high * unit) := by
  unfold Target.accepts
  by_cases he : 0 ≤ e
  · have hpow : (10 : ℚ) ^ e = 10 ^ e.toNat := zpow_of_nonneg he
    refine ⟨d * 10 ^ e.toNat * t.denominator, 1, by norm_num, ?_, ?_⟩
    · push_cast
      rw [hpow]
      ring
    · rw [if_pos he]
      cases t.closed <;> simp
  · have hpow : (10 : ℚ) ^ e * 10 ^ (-e).toNat = 1 := zpow_mul_of_neg (by norm_num) he
    refine ⟨d * t.denominator, 10 ^ (-e).toNat, by positivity, ?_, ?_⟩
    · push_cast
      linear_combination -(d * t.denominator : ℚ) * hpow
    · rw [if_neg he]
      cases t.closed <;> simp

/-- The decimals that are accepted are those that lie next to the double. -/
theorem Target.Of.accepts_iff {d : ℕ} {e : ℤ} :
    t.accepts d e = true ↔ Nearest m q (d * 10 ^ e) := by
  have hpos := ht.pos
  obtain ⟨point, unit, hunit, hpoint, haccepts⟩ := t.accepts_scaled d e
  have hunit' : (0 : ℚ) < unit := by exact_mod_cast hunit
  have hscale : (0 : ℚ) < t.denominator * unit := mul_pos hpos hunit'
  have hlow : (m - gapBelow m q) * 2 ^ q = (t.low * unit : ℕ) / (t.denominator * unit : ℚ) := by
    rw [eq_div_iff hscale.ne', Nat.cast_mul, ht.low]
    ring
  have hhigh : (m + 1 / 2 : ℚ) * 2 ^ q = (t.high * unit : ℕ) / (t.denominator * unit : ℚ) := by
    rw [eq_div_iff hscale.ne', Nat.cast_mul, ht.high]
    ring
  have hvalue : (d : ℚ) * 10 ^ e = point / (t.denominator * unit : ℚ) := by
    rw [eq_div_iff hscale.ne', hpoint]
    ring
  simp only [haccepts, nearest_iff, ht.closed, hlow, hhigh, hvalue, decide_eq_true_eq,
    div_le_div_iff_of_pos_right hscale, div_lt_div_iff_of_pos_right hscale, Nat.cast_le,
    Nat.cast_lt]

/-- The point of a grid below the double, and the next one above it. -/
theorem Target.Of.floorOn_bounds (e : ℤ) :
    ((t.floorOn e).1 : ℚ) * 10 ^ e ≤ m * 2 ^ q ∧
      (m : ℚ) * 2 ^ q < ((t.floorOn e).1 + 1 : ℕ) * 10 ^ e := by
  have hpos := ht.pos
  have hpos' : 0 < t.denominator := by exact_mod_cast hpos
  have hunit : (0 : ℚ) < 10 ^ e := by positivity
  obtain ⟨n, d, hd, hfloor, hvalue⟩ : ∃ n d : ℕ, 0 < d ∧ (t.floorOn e).1 = n / d ∧
      (m : ℚ) * 2 ^ q = n / d * 10 ^ e := by
    have hvalue := ht.value
    unfold Target.floorOn
    by_cases he : 0 ≤ e
    · have hpow : (10 : ℚ) ^ e = 10 ^ e.toNat := zpow_of_nonneg he
      refine ⟨t.value, t.denominator * 10 ^ e.toNat, by positivity, by rw [if_pos he]; rfl, ?_⟩
      push_cast
      rw [hvalue, ← hpow]
      field_simp
    · have hpow : (10 : ℚ) ^ e * 10 ^ (-e).toNat = 1 := zpow_mul_of_neg (by norm_num) he
      refine ⟨t.value * 10 ^ (-e).toNat, t.denominator, hpos', by rw [if_neg he]; rfl, ?_⟩
      push_cast
      rw [hvalue, eq_comm]
      field_simp
      linear_combination (m : ℚ) * hpow
  have hd' : (0 : ℚ) < d := by exact_mod_cast hd
  have hle : ((n / d : ℕ) : ℚ) ≤ n / d := Nat.cast_div_le
  have hlt : (n : ℚ) / d < (n / d + 1 : ℕ) := by
    rw [div_lt_iff₀ hd']
    exact_mod_cast Nat.lt_mul_of_div_lt (Nat.lt_succ_self _) hd
  rw [hfloor, hvalue]
  exact ⟨mul_le_mul_of_nonneg_right hle hunit.le, mul_lt_mul_of_pos_right hlt hunit⟩

/-- What is taken from a grid lies next to the double. -/
theorem Target.Of.nearest_of_onGrid? {d : ℕ} {e : ℤ} (h : t.onGrid? e = some d) :
    Nearest m q (d * 10 ^ e) := by
  rw [← ht.accepts_iff]
  unfold Target.onGrid? at h
  simp only at h
  split at h
  · rename_i hbelow habove
    have hbelow' := (Bool.and_eq_true_iff.mp hbelow).1
    cases h
    split
    · exact hbelow'
    · exact habove
  · rename_i hbelow _
    cases h
    exact (Bool.and_eq_true_iff.mp hbelow).1
  · rename_i habove
    cases h
    exact habove
  · cases h

/-- Something is taken from a grid that is finer than the doubles are. -/
theorem Target.Of.isSome_onGrid? {e : ℤ} (hfine : (10 : ℚ) ^ e < (1 / 2 + gapBelow m q) * 2 ^ q)
    (hle : (10 : ℚ) ^ e ≤ m * 2 ^ q) : (t.onGrid? e).isSome = true := by
  obtain ⟨hlo, hhi⟩ := ht.floorOn_bounds e
  have hpow : (0 : ℚ) < 2 ^ q := by positivity
  have hunit : (0 : ℚ) < 10 ^ e := by positivity
  have hgap := gapBelow_pos (m := m) (q := q)
  have hbelow_lt : (m - gapBelow m q) * 2 ^ q < m * 2 ^ q :=
    mul_lt_mul_of_pos_right (by linarith) hpow
  have habove_lt : (m : ℚ) * 2 ^ q < (m + 1 / 2) * 2 ^ q :=
    mul_lt_mul_of_pos_right (by linarith) hpow
  unfold Target.onGrid?
  simp only
  generalize (t.floorOn e).1 = below at hlo hhi ⊢
  push_cast at hhi
  by_cases hnear : (m - gapBelow m q) * 2 ^ q < below * 10 ^ e
  · -- the point below the double is near enough
    have hne : below ≠ 0 := by
      rintro rfl
      simp only [Nat.cast_zero, zero_add, one_mul] at hhi
      linarith
    have haccepts : t.accepts below e = true :=
      ht.accepts_iff.mpr (nearest_of_between hnear (by linarith))
    have hbelow : (t.accepts below e && below != 0) = true := by
      rw [haccepts, Bool.true_and]
      exact bne_iff_ne.mpr hne
    rw [hbelow]
    split <;> simp_all
  · -- it is not, so the next one is
    have haccepts : t.accepts (below + 1) e = true := by
      rw [ht.accepts_iff]
      push_cast
      apply nearest_of_between
      · linarith
      · linarith
    rw [haccepts]
    split <;> simp_all

end Grids

/-! ## The search -/

theorem Target.Of.less_iff {t : Target} (ht : t.Of m q) (k : ℤ) :
    (if 0 ≤ k then t.value < t.denominator * Nat.pow 10 k.toNat
      else t.value * Nat.pow 10 (-k).toNat < t.denominator) ↔ (m : ℚ) * 2 ^ q < 10 ^ k := by
  have hpos := ht.pos
  have hvalue : (m : ℚ) * 2 ^ q = t.value / t.denominator := by
    rw [ht.value]
    field_simp
  rw [hvalue, div_lt_iff₀ hpos]
  by_cases hk : 0 ≤ k
  · have hpow : (10 : ℚ) ^ k = 10 ^ k.toNat := zpow_of_nonneg hk
    rw [if_pos hk, hpow, mul_comm]
    exact_mod_cast Iff.rfl
  · have hpow : (10 : ℚ) ^ k * 10 ^ (-k).toNat = 1 := zpow_mul_of_neg (by norm_num) hk
    have hunit : (0 : ℚ) < 10 ^ (-k).toNat := by positivity
    have hsplit : (10 : ℚ) ^ k * t.denominator * 10 ^ (-k).toNat = t.denominator := by
      linear_combination (t.denominator : ℚ) * hpow
    rw [if_neg hk, ← mul_lt_mul_iff_of_pos_right hunit, hsplit]
    exact_mod_cast Iff.rfl

/-- The exponent of the grid for one digit: the number lies between two powers of ten. -/
theorem Target.Of.magnitude {t : Target} (ht : t.Of m q) (fuel : ℕ) (k : ℤ)
    (hlo : (10 : ℚ) ^ (k - 1) ≤ m * 2 ^ q) (hhi : (m : ℚ) * 2 ^ q < 10 ^ (k + fuel)) :
    k ≤ t.magnitude fuel k ∧ (10 : ℚ) ^ (t.magnitude fuel k - 1) ≤ m * 2 ^ q := by
  -- on the fuel; every power of ten that the search passes is at most the double
  induction fuel generalizing k with
  | zero => exact ⟨le_rfl, hlo⟩
  | succ fuel ih =>
    unfold Target.magnitude
    simp only [ht.less_iff]
    split
    · exact ⟨le_rfl, hlo⟩
    · rename_i hge
      have hlo' : (10 : ℚ) ^ (k + 1 - 1) ≤ m * 2 ^ q := by
        rw [add_sub_cancel_right]
        exact not_lt.mp hge
      have hhi' : (m : ℚ) * 2 ^ q < 10 ^ (k + 1 + fuel) := by
        have hsum : k + 1 + (fuel : ℤ) = k + (fuel + 1 : ℕ) := by
          push_cast
          ring
        rw [hsum]
        exact hhi
      obtain ⟨hle, hlo''⟩ := ih (k + 1) hlo' hhi'
      exact ⟨by omega, hlo''⟩

theorem trimZeros_value (fuel : ℕ) (d : Digits) :
    ((trimZeros fuel d).digits : ℚ) * 10 ^ (trimZeros fuel d).exponent =
      d.digits * 10 ^ d.exponent ∧ d.exponent ≤ (trimZeros fuel d).exponent := by
  induction fuel generalizing d with
  | zero => exact ⟨rfl, le_rfl⟩
  | succ fuel ih =>
    unfold trimZeros
    split
    · rename_i hzero
      obtain ⟨hvalue, hle⟩ := ih ⟨d.digits / 10, d.exponent + 1⟩
      refine ⟨?_, by simp only at hle; omega⟩
      have hdigits : (d.digits : ℚ) = 10 * (d.digits / 10 : ℕ) := by
        exact_mod_cast (Nat.mul_div_cancel' (Nat.dvd_of_mod_eq_zero hzero.1)).symm
      rw [hvalue, hdigits, zpow_add_one₀ (by norm_num)]
      ring
    · exact ⟨rfl, le_rfl⟩

theorem Target.Of.search_of_some {t : Target} (ht : t.Of m q) {fuel d : ℕ} {e : ℤ}
    (h : t.onGrid? e = some d) :
    Nearest m q ((t.search (fuel + 1) e).digits * 10 ^ (t.search (fuel + 1) e).exponent) ∧
      e ≤ (t.search (fuel + 1) e).exponent := by
  have hsearch : t.search (fuel + 1) e = trimZeros 20 ⟨d, e⟩ := by simp only [Target.search, h]
  obtain ⟨hvalue, hle⟩ := trimZeros_value 20 ⟨d, e⟩
  rw [hsearch, hvalue]
  exact ⟨ht.nearest_of_onGrid? h, hle⟩

/-- A search that gets to a grid fine enough ends with a decimal next to the double. -/
theorem Target.Of.search {t : Target} (ht : t.Of m q) (fuel : ℕ) (e : ℤ)
    (h : (t.onGrid? (e - fuel)).isSome = true) :
    Nearest m q ((t.search (fuel + 1) e).digits * 10 ^ (t.search (fuel + 1) e).exponent) ∧
      e - fuel ≤ (t.search (fuel + 1) e).exponent := by
  induction fuel generalizing e with
  | zero =>
    obtain ⟨d, hd⟩ := Option.isSome_iff_exists.mp h
    rw [Nat.cast_zero, sub_zero] at hd ⊢
    exact ht.search_of_some hd
  | succ fuel ih =>
    cases hgrid : t.onGrid? e with
    | some d =>
      obtain ⟨hnearest, hle⟩ := @Target.Of.search_of_some _ _ _ ht (fuel + 1) _ _ hgrid
      exact ⟨hnearest, by omega⟩
    | none =>
      have hsearch : t.search (fuel + 1 + 1) e = t.search (fuel + 1) (e - 1) := by
        conv_lhs => unfold Target.search
        simp only [hgrid]
      have hsum : e - (fuel + 1 : ℕ) = e - 1 - fuel := by omega
      rw [hsum] at h ⊢
      rw [hsearch]
      exact ih (e - 1) h

theorem two_pow_le {n : ℕ} (h : n < 1075) : 2 ^ n ≤ 10 ^ ((3 * n + 9) / 10 + 9) := by
  revert n
  decide +kernel

/-- The search begins below the double. -/
theorem ten_zpow_le {p : ℤ} (h : -1074 ≤ p) : (10 : ℚ) ^ (p * 3 / 10 - 8 - 1) ≤ 2 ^ p := by
  by_cases hp : 0 ≤ p
  · obtain ⟨l, rfl⟩ : ∃ l : ℕ, p = l := ⟨p.toNat, by omega⟩
    calc (10 : ℚ) ^ ((l : ℤ) * 3 / 10 - 8 - 1) ≤ 10 ^ ((l * 3 / 10 : ℕ) : ℤ) :=
          zpow_le_zpow_right₀ (by norm_num) (by omega)
      _ = (10 ^ (l * 3 / 10) : ℕ) := by rw [zpow_natCast]; push_cast; rfl
      _ ≤ (2 ^ l : ℕ) := by exact_mod_cast ten_pow_le l
      _ = 2 ^ (l : ℤ) := by rw [zpow_natCast]; push_cast; rfl
  · obtain ⟨n, rfl⟩ : ∃ n : ℕ, p = -n := ⟨(-p).toNat, by omega⟩
    have hn := two_pow_le (n := n) (by omega)
    have hexponent : -(n : ℤ) * 3 / 10 - 8 - 1 = -(((3 * n + 9) / 10 + 9 : ℕ) : ℤ) := by omega
    rw [hexponent, zpow_neg, zpow_neg, zpow_natCast, zpow_natCast]
    apply inv_anti₀ (by positivity)
    exact_mod_cast hn

/-- The grid of seventeen digits is finer than the doubles are. -/
theorem fine_of_seventeen (h : Canonical m q) {e : ℤ} (he : (10 : ℚ) ^ (e + 16) ≤ m * 2 ^ q) :
    (10 : ℚ) ^ e < (1 / 2 + gapBelow m q) * 2 ^ q := by
  have hpow : (0 : ℚ) < 2 ^ q := by positivity
  have hsplit : (10 : ℚ) ^ (e + 16) = 10 ^ 16 * 10 ^ e := by
    rw [zpow_add₀ (by norm_num), mul_comm]
    norm_num
  rw [hsplit] at he
  unfold gapBelow
  split
  · -- the least mantissa: the interval is narrower, but so is the grid
    rename_i hedge
    rw [hedge.1] at he
    push_cast at he
    linarith
  · have hm : (m : ℚ) ≤ 2 ^ 53 := by exact_mod_cast h.lt.le
    have hvalue : (m : ℚ) * 2 ^ q ≤ 2 ^ 53 * 2 ^ q := mul_le_mul_of_nonneg_right hm hpow.le
    linarith

/-- The shortest decimal of a double, beginning with the grid that the bits of the double tell. -/
def decimal (m : ℕ) (q : ℤ) : Digits :=
  let t := Target.ofBinary m q
  t.search 17 (t.magnitude 700 ((Nat.log2 m + q) * 3 / 10 - 8) - 1)

/-- Seventeen digits always suffice. -/
theorem nearest_decimal (h : Canonical m q) :
    Nearest m q ((decimal m q).digits * 10 ^ (decimal m q).exponent) ∧
      -400 ≤ (decimal m q).exponent := by
  have ht := Target.of_ofBinary (q := q) h.pos
  have hleast := h.least
  have hgreatest := h.greatest
  have hlog : m.log2 < 53 := (Nat.log2_lt h.pos.ne').mpr h.lt
  unfold decimal
  simp only
  generalize Target.ofBinary m q = t at ht ⊢
  generalize hk : (m.log2 + q) * 3 / 10 - 8 = k
  have hlo : (10 : ℚ) ^ (k - 1) ≤ m * 2 ^ q := by
    have hself : (2 : ℚ) ^ m.log2 ≤ m := by exact_mod_cast Nat.log2_self_le h.pos.ne'
    calc (10 : ℚ) ^ (k - 1) ≤ 2 ^ (m.log2 + q) := by
          rw [← hk]
          exact ten_zpow_le (by omega)
      _ = 2 ^ m.log2 * 2 ^ q := by rw [add_comm, two_zpow_add]
      _ ≤ m * 2 ^ q := mul_le_mul_of_nonneg_right hself (by positivity)
  have hhi : (m : ℚ) * 2 ^ q < 10 ^ (k + (700 : ℕ)) := by
    calc (m : ℚ) * 2 ^ q < 2 ^ (q + 53) := h.nearest_lt (nearest_self m q)
      _ ≤ 2 ^ (1024 : ℤ) := zpow_le_zpow_right₀ (by norm_num) (by omega)
      _ ≤ 10 ^ (309 : ℤ) := by exact_mod_cast (by decide +kernel : 2 ^ 1024 ≤ 10 ^ 309)
      _ ≤ 10 ^ (k + (700 : ℕ)) := zpow_le_zpow_right₀ (by norm_num) (by omega)
  -- from the first grid to that of seventeen digits there are sixteen steps
  obtain ⟨hle, hmagnitude⟩ := ht.magnitude 700 k hlo hhi
  generalize t.magnitude 700 k = top at hle hmagnitude ⊢
  have hseventeen : top - 1 - (16 : ℕ) + 16 = top - 1 := by omega
  have hfine := fine_of_seventeen h (hseventeen ▸ hmagnitude)
  have hsmall : (10 : ℚ) ^ (top - 1 - (16 : ℕ)) ≤ m * 2 ^ q :=
    (zpow_le_zpow_right₀ (by norm_num) (by omega)).trans hmagnitude
  obtain ⟨hnearest, hexponent⟩ := ht.search 16 (top - 1) (ht.isSome_onGrid? hfine hsmall)
  refine ⟨hnearest, ?_⟩
  change -400 ≤ (t.search (16 + 1) (top - 1)).exponent
  omega

/-- The bits of a double tell where the search for its decimal begins. -/
theorem ofBits_eq {bits : UInt64} (h : Encodes bits.toNat m q) :
    ofBits bits = decimal m q := by
  obtain ⟨hlt, hparts⟩ := h
  have hexponent : (bits >>> 52 &&& 0x7FF).toNat = bits.toNat / 2 ^ 52 := by
    have hand := Nat.and_two_pow_sub_one_eq_mod (bits.toNat >>> 52) 11
    simp only [UInt64.toNat_and, UInt64.toNat_shiftRight, UInt64.reduceToNat] at hand ⊢
    change bits.toNat >>> 52 &&& 2 ^ 11 - 1 = _
    rw [hand, Nat.shiftRight_eq_div_pow]
    omega
  have hfraction : (bits &&& 0xFFFFFFFFFFFFF).toNat = bits.toNat % 2 ^ 52 := by
    rw [UInt64.toNat_and]
    exact Nat.and_two_pow_sub_one_eq_mod bits.toNat 52
  unfold ofBits decimal
  simp only [hexponent, hfraction]
  split at hparts
  · rename_i hzero
    obtain ⟨rfl, rfl⟩ := hparts
    simp only [hzero, if_true]
  · rename_i hzero
    obtain ⟨rfl, rfl⟩ := hparts
    simp only [hzero, if_false]
    rfl

end Shortest

end Landform
