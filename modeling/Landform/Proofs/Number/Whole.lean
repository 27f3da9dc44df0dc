import Landform.Proofs.Number.Operation

/-! # Whole numbers below a double

The step down to a whole number is exact: what a double leaves below its point is cut off as the
words it is carried through hold whole numbers of 52 bits, and beyond these a double is whole. -/

namespace Landform

open Float.Model Float.Model.UnpackedFloat

namespace Double

variable {x : Float}

/-! ## Magnitudes and negatives -/

/-- The magnitude of a double is the magnitude of what it stands for. -/
theorem value_abs (h : x.isFinite = true) : x.abs.isFinite = true ∧ value x.abs = |value x| := by
  obtain ⟨s, hx⟩ | ⟨s, m, q, hc, hx⟩ := unpack_cases h
  · have habs : x.abs = .ofModel (.pack (.zero .positive)) := by
      change Float.ofModel (.pack x.toModel.unpack.abs) = _
      rw [hx]
      rfl
    unfold value
    rw [habs, hx]
    exact ⟨rfl, abs_zero.symm⟩
  · have habs : x.abs = hc.float .positive := by
      change Float.ofModel (.pack x.toModel.unpack.abs) = _
      rw [hx]
      rfl
    have hunpack : x.abs.toModel.unpack = .finite .positive m q hc.pos := by
      rw [habs, hc.unpack_float]
    refine ⟨?_, ?_⟩
    · change x.abs.toModel.unpack.isFinite = true
      rw [hunpack]
      rfl
    · unfold value
      rw [hunpack, hx, unpackedValue_positive, abs_unpackedValue]

theorem value_zero : value 0 = 0 := by decide +kernel

/-- The negative of a double, by subtraction from zero. -/
theorem value_zero_sub (h : x.isFinite = true) :
    (0 - x).isFinite = true ∧ value (0 - x) = -value x := by
  refine sub_exact rfl h ?_ (onGrid_value h).neg ?_
  · rw [value_zero, zero_sub]
  · rw [abs_neg]
    exact abs_value_lt h

/-! ## Cutting off -/

/-- A mantissa is cut off at the point. -/
theorem roundToInt_positive (m : ℕ) (q : ℤ) :
    UnpackedFloat.roundToInt .positive m q = ⌊(m : ℚ) * 2 ^ q⌋ := by
  have hstands : Stands (.ofMantissaAndAccuracy (m <<< (q - 0).toNat) .exact)
      ((m : ℚ) * 2 ^ q / 2 ^ (q - (q - 0).toNat)) := by
    apply stands_exact
    have hsplit : q = q - (q - 0).toNat + ((q - 0).toNat : ℤ) := by omega
    conv_lhs => rw [hsplit, two_zpow_add, ← hsplit]
    rw [Nat.shiftLeft_eq]
    push_cast
    field_simp
  have hcut := (hstands.shiftTo (t := 0) (by omega)).bounds
  rw [zpow_zero, div_one] at hcut
  exact (Int.floor_eq_iff.mpr (by exact_mod_cast hcut)).symm

theorem toNat_toUInt64 (h : x.isFinite = true) (hnonneg : 0 ≤ value x) (hlt : value x < 2 ^ 53) :
    (x.toUInt64.toNat : ℤ) = ⌊value x⌋ := by
  have hword : x.toUInt64 = x.toModel.unpack.toUInt64 := rfl
  unfold value at hnonneg hlt ⊢
  obtain ⟨s, hx⟩ | ⟨s, m, q, hc, hx⟩ := unpack_cases h
  · rw [hword, hx]
    exact Int.floor_zero.symm
  · rw [hx] at hnonneg hlt ⊢
    cases s with
    | negative =>
      rw [unpackedValue_negative] at hnonneg
      exact absurd hc.value_pos (by linarith)
    | positive =>
      rw [unpackedValue_positive] at hlt ⊢
      have hfloor : 0 ≤ ⌊(m : ℚ) * 2 ^ q⌋ := Int.floor_nonneg.mpr hc.value_pos.le
      have hbound : ⌊(m : ℚ) * 2 ^ q⌋ < 2 ^ 53 := Int.floor_lt.mpr (by exact_mod_cast hlt)
      have htoInt : UnpackedFloat.toInt 0 (UInt64.size - 1) (.finite .positive m q hc.pos) =
          ⌊(m : ℚ) * 2 ^ q⌋ := roundToInt_positive m q
      rw [hword, hx, UnpackedFloat.toUInt64, htoInt, UInt64.toNat_ofNatClamp_of_lt]
      · omega
      · change _ < 2 ^ 64
        omega

/-! ## The floor -/

theorem value_wholeFrom : wholeFrom.isFinite = true ∧ value wholeFrom = 2 ^ 52 := by decide +kernel

theorem value_one : (1 : Float).isFinite = true ∧ value 1 = 1 := by decide +kernel

/-- Doubles with the magnitude of a whole mantissa are whole. -/
theorem floor_of_large (h : x.isFinite = true) (hlarge : 2 ^ 52 ≤ |value x|) :
    (⌊value x⌋ : ℚ) = value x := by
  unfold value at hlarge ⊢
  obtain ⟨s, hx⟩ | ⟨s, m, q, hc, hx⟩ := unpack_cases h
  · rw [hx]
    change ((⌊(0 : ℚ)⌋ : ℤ) : ℚ) = 0
    rw [Int.floor_zero, Int.cast_zero]
  · rw [hx, abs_unpackedValue] at hlarge
    have hq : 0 ≤ q := by
      have hm : (m : ℚ) < 2 ^ 53 := by exact_mod_cast hc.lt
      have hlt : (52 : ℤ) < q + (53 : ℕ) := by
        apply two_zpow_lt
        calc (2 : ℚ) ^ (52 : ℤ) ≤ m * 2 ^ q := hlarge
          _ < 2 ^ 53 * 2 ^ q := mul_lt_mul_of_pos_right hm (by positivity)
          _ = 2 ^ (q + (53 : ℕ)) := (two_zpow_add 53 q).symm
      omega
    have hwhole : unpackedValue (.finite s m q hc.pos) = (s.apply m * 2 ^ q.toNat : ℤ) := by
      change ((s.apply m : ℤ) : ℚ) * 2 ^ q = _
      rw [zpow_of_nonneg hq]
      push_cast
      rfl
    rw [hx, hwhole, Int.floor_intCast]

theorem value_floor_of_neg (h : x.isFinite = true) (hneg : value x < 0)
    (hsmall : -value x < 2 ^ 52) :
    let below := 0 - (0 - x).toUInt64.toFloat
    let whole := if x < below then below - 1 else below
    whole.isFinite = true ∧ value whole = ⌊value x⌋ := by
  obtain ⟨hnegated, hvalue⟩ := value_zero_sub h
  have hword : ((0 - x).toUInt64.toNat : ℤ) = ⌊-value x⌋ := by
    rw [← hvalue]
    exact toNat_toUInt64 hnegated (by linarith) (by linarith)
  generalize (0 - x).toUInt64 = w at hword ⊢
  have hle : ((w.toNat : ℤ) : ℚ) ≤ -value x := hword ▸ Int.floor_le _
  have hlt : -value x < (w.toNat : ℤ) + 1 := hword ▸ Int.lt_floor_add_one _
  rw [Int.cast_natCast] at hle hlt
  have hbits : w.toNat < 2 ^ 52 := by
    have hcast : (w.toNat : ℚ) < (2 ^ 52 : ℕ) := by
      push_cast
      linarith
    exact_mod_cast hcast
  obtain ⟨hfloat, hfloatValue⟩ := value_toFloat (w := w) (by omega)
  obtain ⟨hbelow, hbelowValue⟩ := value_zero_sub hfloat
  rw [hfloatValue] at hbelowValue
  intro below whole
  change below.isFinite = true at hbelow
  change value below = _ at hbelowValue
  -- the word holds the whole part of the magnitude, so that `below` is the whole number next to `x`
  -- on the side of zero
  by_cases hless : x < below
  · have hless' := (lt_iff_value h hbelow).mp hless
    have hexact : value below - value 1 = ((-(w.toNat + 1 : ℤ) : ℤ) : ℚ) := by
      rw [hbelowValue, value_one.2]
      push_cast
      ring
    have hcount : (-(w.toNat + 1 : ℤ)).natAbs ≤ 2 ^ 53 := by omega
    obtain ⟨hfinite, hvalue⟩ :=
      sub_exact hbelow value_one.1 hexact (onGrid_intCast hcount) (abs_intCast_lt hcount)
    have hwhole : whole = below - 1 := if_pos hless
    rw [hwhole, hvalue]
    refine ⟨hfinite, ?_⟩
    refine congrArg _ (Int.floor_eq_iff.mpr ⟨?_, ?_⟩).symm
    · push_cast
      linarith
    · push_cast
      linarith
  · have hge := not_lt.mp (mt (lt_iff_value h hbelow).mpr hless)
    have hwhole : whole = below := if_neg hless
    rw [hwhole]
    refine ⟨hbelow, ?_⟩
    have hvalue : value x = ((-(w.toNat : ℤ) : ℤ) : ℚ) := by
      push_cast
      linarith
    rw [hbelowValue, hvalue, Int.floor_intCast]
    push_cast
    rfl

/-- The step down from a finite double is the largest whole number not above it. -/
theorem value_floor (h : x.isFinite = true) :
    (Double.floor x).isFinite = true ∧ value (Double.floor x) = ⌊value x⌋ := by
  obtain ⟨habs, habsValue⟩ := value_abs h
  have hiff := lt_iff_value habs value_wholeFrom.1
  rw [habsValue, value_wholeFrom.2] at hiff
  have hzero : x < 0 ↔ value x < 0 := by
    have hiff := lt_iff_value h (y := 0) rfl
    rwa [value_zero] at hiff
  unfold Double.floor
  by_cases hsmall : x.abs < wholeFrom
  · have hvalue := abs_lt.mp (hiff.mp hsmall)
    rw [if_pos hsmall]
    by_cases hneg : x < 0
    · rw [if_pos hneg]
      exact value_floor_of_neg h (hzero.mp hneg) (by linarith)
    · rw [if_neg hneg]
      have hnonneg := not_lt.mp (mt hzero.mpr hneg)
      have hword := toNat_toUInt64 h hnonneg (by linarith)
      have hbits : x.toUInt64.toNat < 2 ^ 53 := by
        have hlt : ⌊value x⌋ < 2 ^ 53 := Int.floor_lt.mpr (by push_cast; linarith)
        omega
      obtain ⟨hfinite, hfloat⟩ := value_toFloat hbits
      refine ⟨hfinite, ?_⟩
      rw [hfloat, ← hword, Int.cast_natCast]
  · rw [if_neg hsmall]
    exact ⟨h, (floor_of_large h (not_lt.mp (mt hiff.mpr hsmall))).symm⟩

end Double

end Landform
