import Landform.Proofs.Number.Grid

/-! # Operations on doubles

A sum, a difference or a product that is finite has finite operands and is the exact result rounded.
A quotient that is finite has a finite dividend and is the exact quotient rounded, or zero if the
divisor is infinite. -/

namespace Landform

open Float.Model Float.Model.UnpackedFloat

/-! ## Signs -/

theorem sign_mul (s t : Sign) : (s * t).apply 1 = s.apply 1 * t.apply 1 := by
  cases s <;> cases t <;> rfl

theorem sign_div (s t : Sign) : (s / t).apply 1 = s.apply 1 * t.apply 1 := by
  cases s <;> cases t <;> rfl

theorem sign_neg (s : Sign) : (-s).apply 1 = -s.apply 1 := by
  cases s <;> rfl

theorem unpackedValue_finite (s : Sign) {m : ℕ} {q : ℤ} (hpos : 0 < m) :
    unpackedValue (.finite s m q hpos) = (s.apply 1 : ℤ) * (m * 2 ^ q) := sign_mul_apply ..

/-! ## Settled operands -/

section Settled

variable {u v : UnpackedFloat}

/-- What the result of an operation on two unpacked doubles has to do with the exact result. -/
structure Computes (exact : ℚ) (u v result : UnpackedFloat) : Prop where
  settled : Settled result
  isFinite : result.isFinite = true ↔ u.isFinite = true ∧ v.isFinite = true
  rounds : u.isFinite = true → v.isFinite = true → Rounds exact (unpackedValue result)

/-- A signed mantissa is rounded, at whatever exponent it is given. -/
theorem normalize_rounds (n e : ℤ) :
    Settled (UnpackedFloat.normalize Format.binary64 n e .positive) ∧
      (UnpackedFloat.normalize Format.binary64 n e .positive).isFinite = true ∧
      Rounds (n * 2 ^ e)
        (unpackedValue (UnpackedFloat.normalize Format.binary64 n e .positive)) := by
  rcases Nat.eq_zero_or_pos n.natAbs with hzero | hpos
  · obtain rfl : n = 0 := Int.natAbs_eq_zero.mp hzero
    refine ⟨trivial, rfl, ?_⟩
    rw [Int.cast_zero, zero_mul]
    exact .refl 0
  · obtain ⟨mantissa, exponent, hround, hstands, hbits⟩ := exists_round (signOf n) hpos e
    have hvalue : ((signOf n).apply 1 : ℤ) * ((n.natAbs : ℚ) * 2 ^ e) = n * 2 ^ e := by
      rw [← sign_mul_apply, signOf_apply]
    have hfinite := isFinite_roundWithAccuracy (signOf n) mantissa exponent .exact
    obtain ⟨hsettled, hrounds⟩ := roundWithAccuracy_rounds (signOf n) hstands hbits
    rw [← hround, ← normalize_apply _ hpos, signOf_apply] at hfinite hsettled hrounds
    rw [hvalue] at hrounds
    exact ⟨hsettled, hfinite, hrounds⟩

theorem add_computes (hu : Settled u) (hv : Settled v) :
    Computes (unpackedValue u + unpackedValue v) u v (.add Format.binary64 u v) := by
  cases u with
  | notANumber => exact ⟨trivial, iff_of_false nofun nofun, nofun⟩
  | infinity s =>
    cases v with
    | infinity t => cases s <;> cases t <;> exact ⟨trivial, iff_of_false nofun nofun, nofun⟩
    | _ => exact ⟨trivial, iff_of_false nofun nofun, nofun⟩
  | zero s =>
    cases v with
    | notANumber | infinity t => exact ⟨trivial, iff_of_false nofun nofun, nofun⟩
    | zero t =>
      have hzero : Rounds (0 + 0) 0 := by
        rw [add_zero]
        exact .refl 0
      cases s <;> cases t <;> exact ⟨trivial, iff_of_true rfl ⟨rfl, rfl⟩, fun _ _ => hzero⟩
    | finite t m q hpos =>
      refine ⟨hv, iff_of_true rfl ⟨rfl, rfl⟩, fun _ _ => ?_⟩
      change Rounds (0 + _) _
      rw [zero_add]
      exact .refl _
  | finite s m q hpos =>
    cases v with
    | notANumber | infinity t => exact ⟨trivial, iff_of_false nofun nofun, nofun⟩
    | zero t =>
      refine ⟨hu, iff_of_true rfl ⟨rfl, rfl⟩, fun _ _ => ?_⟩
      change Rounds (_ + 0) _
      rw [add_zero]
      exact .refl _
    | finite t m' q' hpos' =>
      -- both mantissas are brought to the less exponent, and their sum is rounded
      have hfirst := decreaseExponent_value s m (min_le_left q q')
      have hsecond := decreaseExponent_value t m' (min_le_right q q')
      obtain ⟨hsettled, hfinite, hrounds⟩ := normalize_rounds
        (s.apply (decreaseExponent m q (min q q')).1 +
          t.apply (decreaseExponent m' q' (min q q')).1)
        (min q q')
      rw [Int.cast_add, add_mul, hfirst, hsecond] at hrounds
      exact ⟨hsettled, iff_of_true hfinite ⟨rfl, rfl⟩, fun _ _ => hrounds⟩

theorem Settled.neg (h : Settled u) : Settled u.neg := by
  cases u <;> exact h

theorem isFinite_neg (u : UnpackedFloat) : u.neg.isFinite = u.isFinite := by
  cases u <;> rfl

theorem unpackedValue_neg (u : UnpackedFloat) : unpackedValue u.neg = -unpackedValue u := by
  cases u with
  | finite s m q hpos =>
    rw [UnpackedFloat.neg, unpackedValue_finite, unpackedValue_finite, sign_neg, Int.cast_neg,
      neg_mul]
  | _ => exact neg_zero.symm

/-- To subtract is to add the negative. -/
theorem sub_eq_add_neg_unpacked (u v : UnpackedFloat) :
    UnpackedFloat.sub Format.binary64 u v = UnpackedFloat.add Format.binary64 u v.neg := by
  have hneg (s : Sign) : - -s = s := by cases s <;> rfl
  have happly (s : Sign) (n : ℤ) : (-s).apply n = -s.apply n := by
    cases s with
    | negative => exact (neg_neg n).symm
    | positive => rfl
  cases u with
  | finite s m q hpos =>
    cases v with
    | finite t m' q' hpos' =>
      simp only [UnpackedFloat.sub, UnpackedFloat.add, UnpackedFloat.neg, happly, sub_eq_add_neg]
    | _ => rfl
  | _ => cases v <;> rfl

theorem sub_computes (hu : Settled u) (hv : Settled v) :
    Computes (unpackedValue u - unpackedValue v) u v (.sub Format.binary64 u v) := by
  obtain ⟨hsettled, hfinite, hrounds⟩ := add_computes hu hv.neg
  rw [isFinite_neg, ← sub_eq_add_neg_unpacked] at hfinite
  rw [isFinite_neg, unpackedValue_neg, ← sub_eq_add_neg, ← sub_eq_add_neg_unpacked] at hrounds
  rw [← sub_eq_add_neg_unpacked] at hsettled
  exact ⟨hsettled, hfinite, hrounds⟩

theorem mul_computes (hu : Settled u) (hv : Settled v) :
    Computes (unpackedValue u * unpackedValue v) u v (.mul Format.binary64 u v) := by
  have hzero {a : ℚ} : Rounds (0 * a) 0 := by
    rw [zero_mul]
    exact .refl 0
  cases u with
  | notANumber => exact ⟨trivial, iff_of_false nofun nofun, nofun⟩
  | infinity s => cases v <;> exact ⟨trivial, iff_of_false nofun nofun, nofun⟩
  | zero s =>
    cases v with
    | notANumber | infinity t => exact ⟨trivial, iff_of_false nofun nofun, nofun⟩
    | zero t | finite t => exact ⟨trivial, iff_of_true rfl ⟨rfl, rfl⟩, fun _ _ => hzero⟩
  | finite s m q hpos =>
    cases v with
    | notANumber | infinity t => exact ⟨trivial, iff_of_false nofun nofun, nofun⟩
    | zero t =>
      refine ⟨trivial, iff_of_true rfl ⟨rfl, rfl⟩, fun _ _ => ?_⟩
      rw [mul_comm]
      exact hzero
    | finite t m' q' hpos' =>
      have hbits : q + q' ≤ max (((m * m').log2 : ℤ) + 1 + (q + q') - 53) (-1074) := by
        by_cases hmany : 2 ^ 52 ≤ m * m'
        · have hlog : 52 ≤ (m * m').log2 :=
            (Nat.le_log2 (Nat.mul_pos hpos hpos').ne').mpr hmany
          omega
        · -- factors with few bits are at the least exponent
          have hq := hu.2.2.resolve_left fun h => hmany (h.trans (Nat.le_mul_of_pos_right m hpos'))
          have hq' := hv.2.2.resolve_left fun h => hmany (h.trans (Nat.le_mul_of_pos_left m' hpos))
          omega
      obtain ⟨hsettled, hrounds⟩ :=
        roundWithAccuracy_rounds (s * t) (stands_product m m' q q') hbits
      refine ⟨hsettled, iff_of_true (isFinite_roundWithAccuracy ..) ⟨rfl, rfl⟩, fun _ _ => ?_⟩
      rw [unpackedValue_finite, unpackedValue_finite, mul_mul_mul_comm, ← Int.cast_mul, ← sign_mul]
      exact hrounds

/-- A quotient by an infinite number is zero, which is what division by zero gives among the
rationals. -/
theorem div_rounds (u v : UnpackedFloat) :
    Settled (UnpackedFloat.div Format.binary64 u v) ∧
      ((UnpackedFloat.div Format.binary64 u v).isFinite = true →
        u.isFinite = true ∧
          Rounds (unpackedValue u / unpackedValue v)
            (unpackedValue (UnpackedFloat.div Format.binary64 u v))) := by
  have hzero {a : ℚ} (h : a = 0) : Rounds a 0 := by
    rw [h]
    exact .refl 0
  cases u with
  | notANumber => exact ⟨trivial, nofun⟩
  | infinity s => cases v <;> exact ⟨trivial, nofun⟩
  | zero s =>
    cases v with
    | notANumber | zero t => exact ⟨trivial, nofun⟩
    | infinity t | finite t => exact ⟨trivial, fun _ => ⟨rfl, hzero (zero_div _)⟩⟩
  | finite s m q hpos =>
    cases v with
    | notANumber | zero t => exact ⟨trivial, nofun⟩
    | infinity t => exact ⟨trivial, fun _ => ⟨rfl, hzero (div_zero _)⟩⟩
    | finite t m' q' hpos' =>
      obtain ⟨mantissa, exponent, accuracy, hdiv, hstands, hbits⟩ :=
        exists_div s t q q' hpos hpos'
      obtain ⟨hsettled, hrounds⟩ := roundWithAccuracy_rounds (s / t) hstands hbits
      have hsign : ((s.apply 1 : ℤ) : ℚ) / (t.apply 1 : ℤ) = ((s / t).apply 1 : ℤ) := by
        rw [sign_div, Int.cast_mul]
        cases t <;> simp [Sign.apply, div_eq_mul_inv]
      rw [hdiv, unpackedValue_finite, unpackedValue_finite, mul_div_mul_comm, hsign]
      exact ⟨hsettled, fun _ => ⟨rfl, hrounds⟩⟩

end Settled

/-! ## Doubles -/

open Double (value)

theorem settled_unpack (x : Float) : Settled x.toModel.unpack := by
  cases hx : x.toModel.unpack with
  | finite s m q hpos => exact (unpack_canonical hx).settled s
  | _ => trivial

/-- A settled result that is finite as a double is found again in its bits. -/
theorem unpack_of_isFinite {u : UnpackedFloat} (hu : Settled u)
    (h : (Float.ofModel (.pack u)).isFinite = true) :
    (Float.ofModel (.pack u)).toModel.unpack = u := by
  cases u with
  | notANumber => cases h
  | infinity s => cases s <;> cases h
  | zero s => cases s <;> rfl
  | finite s m q hpos =>
    by_cases hq : q ≤ 971
    · exact Canonical.unpack_pack ⟨hpos, hu.1, hu.2.1, hq, hu.2.2⟩ s
    · -- the exponent is beyond that of every double, so that the bits are those of infinity
      have hexponent : (q + (Format.exponentBias .binary64 : ℕ) + (52 : ℕ)).toNat =
          (q + 1075).toNat := by
        norm_num [Format.exponentBias]
        omega
      have hinfinite : UnpackedFloat.pack Format.binary64 (.finite s m q hpos) =
          UnpackedFloat.pack Format.binary64 (.infinity s) := by
        simp only [UnpackedFloat.pack, hexponent]
        exact if_pos (by norm_num; omega)
      have hmodel : Float.Model.pack (.finite s m q hpos) = .pack (.infinity s) := by
        simp only [Float.Model.pack, hinfinite]
      rw [hmodel] at h
      cases s <;> cases h

/-- A settled result below the powers of two that are too large is finite as a double. -/
theorem isFinite_of_value_lt {u : UnpackedFloat} (hu : Settled u) (hfinite : u.isFinite = true)
    (h : |unpackedValue u| < 2 ^ 1024) : (Float.ofModel (.pack u)).isFinite = true := by
  cases u with
  | notANumber | infinity s => cases hfinite
  | zero s => cases s <;> rfl
  | finite s m q hpos =>
    have hq : q ≤ 971 := by
      refine not_lt.mp fun hlarge => not_le.mpr h ?_
      have hm : (2 : ℚ) ^ 52 ≤ m := by exact_mod_cast hu.2.2.resolve_right (by omega)
      rw [abs_unpackedValue]
      calc (2 : ℚ) ^ 1024 = 2 ^ ((972 : ℤ) + (52 : ℕ)) := (zpow_natCast 2 1024).symm
        _ = 2 ^ 52 * 2 ^ (972 : ℤ) := two_zpow_add 52 972
        _ ≤ 2 ^ 52 * 2 ^ q :=
            mul_le_mul_of_nonneg_left (zpow_le_zpow_right₀ (by norm_num) (by omega))
              (by positivity)
        _ ≤ m * 2 ^ q := mul_le_mul_of_nonneg_right hm (by positivity)
    have hc : Canonical m q := ⟨hpos, hu.1, hu.2.1, hq, hu.2.2⟩
    change (hc.float s).toModel.unpack.isFinite = true
    rw [hc.unpack_float]
    rfl

namespace Double

variable {x y : Float}

/-- A finite double is on the grid. -/
theorem onGrid_value (h : x.isFinite = true) : OnGrid (value x) := by
  unfold value
  obtain ⟨s, hx⟩ | ⟨s, m, q, hc, hx⟩ := unpack_cases h
  · rw [hx]
    exact onGrid_zero
  · rw [hx]
    refine ⟨s.apply m, q, ?_, hc.least, rfl⟩
    have hlt := hc.lt
    cases s with
    | positive =>
      change (m : ℤ).natAbs ≤ _
      omega
    | negative =>
      change (-(m : ℤ)).natAbs ≤ _
      omega

theorem abs_value_lt (h : x.isFinite = true) : |value x| < 2 ^ 1024 := by
  unfold value
  obtain ⟨s, hx⟩ | ⟨s, m, q, hc, hx⟩ := unpack_cases h
  · rw [hx]
    change |(0 : ℚ)| < _
    rw [abs_zero]
    positivity
  · have hm : (m : ℚ) < 2 ^ 53 := by exact_mod_cast hc.lt
    have hgreatest := hc.greatest
    rw [hx, abs_unpackedValue]
    calc (m : ℚ) * 2 ^ q < 2 ^ 53 * 2 ^ q := mul_lt_mul_of_pos_right hm (by positivity)
      _ = 2 ^ (q + (53 : ℕ)) := (two_zpow_add 53 q).symm
      _ ≤ 2 ^ ((1024 : ℕ) : ℤ) := zpow_le_zpow_right₀ (by norm_num) (by push_cast; omega)
      _ = 2 ^ 1024 := zpow_natCast 2 1024

/-- A result that is finite as a double has finite operands, and is the exact result rounded. -/
theorem value_of_computes {exact : ℚ} {result : UnpackedFloat}
    (hresult : Computes exact x.toModel.unpack y.toModel.unpack result)
    (h : (Float.ofModel (.pack result)).isFinite = true) :
    x.isFinite = true ∧ y.isFinite = true ∧
      Rounds exact (value (Float.ofModel (.pack result))) := by
  have hunpack := unpack_of_isFinite hresult.settled h
  have hfinite : result.isFinite = true := hunpack ▸ h
  obtain ⟨hx, hy⟩ := hresult.isFinite.mp hfinite
  unfold value
  rw [hunpack]
  exact ⟨hx, hy, hresult.rounds hx hy⟩

theorem add_value (h : (x + y).isFinite = true) :
    x.isFinite = true ∧ y.isFinite = true ∧ Rounds (value x + value y) (value (x + y)) :=
  value_of_computes (add_computes (settled_unpack x) (settled_unpack y)) h

theorem sub_value (h : (x - y).isFinite = true) :
    x.isFinite = true ∧ y.isFinite = true ∧ Rounds (value x - value y) (value (x - y)) :=
  value_of_computes (sub_computes (settled_unpack x) (settled_unpack y)) h

theorem mul_value (h : (x * y).isFinite = true) :
    x.isFinite = true ∧ y.isFinite = true ∧ Rounds (value x * value y) (value (x * y)) :=
  value_of_computes (mul_computes (settled_unpack x) (settled_unpack y)) h

theorem div_value (h : (x / y).isFinite = true) :
    x.isFinite = true ∧ Rounds (value x / value y) (value (x / y)) := by
  obtain ⟨hsettled, hrounds⟩ := div_rounds x.toModel.unpack y.toModel.unpack
  have hunpack := unpack_of_isFinite hsettled h
  rw [← hunpack] at hrounds
  exact hrounds h

/-- A difference that is on the grid and not too large is exact. -/
theorem sub_exact (hx : x.isFinite = true) (hy : y.isFinite = true) {r : ℚ}
    (h : value x - value y = r) (hr : OnGrid r) (hlt : |r| < 2 ^ 1024) :
    (x - y).isFinite = true ∧ value (x - y) = r := by
  obtain ⟨hsettled, hiff, hrounds⟩ := sub_computes (settled_unpack x) (settled_unpack y)
  have heq : unpackedValue (UnpackedFloat.sub Format.binary64 x.toModel.unpack
      y.toModel.unpack) = r := (h ▸ hrounds hx hy).eq hr
  have hfinite : (x - y).isFinite = true :=
    isFinite_of_value_lt hsettled (hiff.mpr ⟨hx, hy⟩) (heq ▸ hlt)
  exact ⟨hfinite, (congrArg unpackedValue (unpack_of_isFinite hsettled hfinite)).trans heq⟩

end Double

end Landform
