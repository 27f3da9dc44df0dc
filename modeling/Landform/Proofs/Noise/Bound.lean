import Landform.Noise.Fractal
import Landform.Proofs.Number.Bound

/-! # Bounds of noise over doubles

However its steps round, a sum of octaves is at most a multiple of their number if it is finite, and
the amplitudes that it is divided by come to at least one, which is the first of them. A step
between two edges lies between zero and two. These bounds are wide, but they hold for every seed,
every point and every frequency. -/

namespace Landform

open Double (value Within)

/-! ## One octave -/

namespace Lattice

/-- What a word of 53 bits is scaled by. -/
theorem value_unitStep : value (Scalar.ratio 1 (Nat.pow 2 53)) = 1 / 2 ^ 53 := by decide +kernel

theorem within_unit (bits : UInt64) : Within 0 (unit bits : Float) := fun h => by
  obtain ⟨-, -, hrounds⟩ := Double.mul_value h
  have hlt := toNat_top_lt bits
  refine hrounds.magnitude_le (onGrid_two_pow _) ?_
  change |value (bits >>> 11).toFloat * _| ≤ _
  have hcast : ((bits >>> 11).toNat : ℚ) ≤ 2 ^ 53 := by exact_mod_cast hlt.le
  rw [(Double.value_toFloat hlt).2, value_unitStep, abs_of_nonneg (by positivity), mul_one_div,
    pow_zero, div_le_one (by positivity)]
  exact hcast

theorem within_value2 (seed : UInt64) (x z : Int64) : Within 2 (value2 seed x z : Float) :=
  ((within_unit _).mul (.ofNat (n := 2) (k := 1) (by norm_num) (by norm_num))).sub
    (.ofNat (n := 1) (by norm_num) (by norm_num))

end Lattice

namespace Noise

variable {k : ℕ} {t : Float}

theorem within_ease (h : Within 0 t) : Within 3 (ease t) :=
  (h.mul h).mul <| Within.sub (k := 2) (.ofNat (n := 3) (by norm_num) (by norm_num)) <|
    ((Within.ofNat (n := 2) (k := 1) (by norm_num) (by norm_num)).mul h).mono (by norm_num)

theorem within_lerp {a b : Float} (ha : Within k a) (hb : Within k b) (ht : Within 3 t) :
    Within (k + 5) (lerp a b t) :=
  (ha.mono (by omega)).add ((hb.sub ha).mul ht)

theorem within_value2 (seed : UInt64) (x z : Float) : Within 12 (value2 seed x z) := by
  unfold value2
  split
  · have hx := within_ease (Double.within_sub_floor x)
    have hz := within_ease (Double.within_sub_floor z)
    have hcorner := Lattice.within_value2 seed
    exact within_lerp (within_lerp (hcorner _ _) (hcorner _ _) hx)
      (within_lerp (hcorner _ _) (hcorner _ _) hx) hz
  · exact .ofNat (n := 0) (by norm_num) (by norm_num)

/-- A finite result of easing from zero to one lies between zero and two. -/
theorem ease_value (h : (ease t).isFinite = true) (hlow : 0 ≤ value t) (hhigh : value t ≤ 1) :
    0 ≤ value (ease t) ∧ value (ease t) ≤ 2 := by
  have htwo : value (Float.ofNat 2) = 2 := (Double.value_ofNat (n := 2) (by norm_num)).2
  have hthree : value (Float.ofNat 3) = 3 := (Double.value_ofNat (n := 3) (by norm_num)).2
  obtain ⟨hsquareFinite, hrestFinite, hrounds⟩ := Double.mul_value h
  obtain ⟨-, -, hsquare⟩ := Double.mul_value hsquareFinite
  obtain ⟨-, hdoubleFinite, hrest⟩ := Double.sub_value hrestFinite
  obtain ⟨-, -, hdouble⟩ := Double.mul_value hdoubleFinite
  change Rounds (value (Float.ofNat 2) * value t) _ at hdouble
  change Rounds (value (Float.ofNat 3) - _) _ at hrest
  rw [htwo] at hdouble
  rw [hthree] at hrest
  have hsquareNonneg := hsquare.ge onGrid_zero (mul_self_nonneg _)
  have hdoubleLe := hdouble.le (onGrid_two_pow 1) (by linarith)
  have hrestNonneg := hrest.ge onGrid_zero (by linarith)
  refine ⟨hrounds.ge onGrid_zero (mul_nonneg hsquareNonneg hrestNonneg), ?_⟩
  have hproduct : value (t * t) * value (Scalar.ofNat 3 - Scalar.ofNat 2 * t) ≤ 2 := by
    -- below one half the square is small, and from there on the other factor is at most two
    rcases le_total (value t) (1 / 2) with hhalf | hhalf
    · have hgrid : OnGrid (1 / 2) := ⟨1, -1, by norm_num, by norm_num, by norm_num⟩
      have hle : value t * value t ≤ 1 / 2 := (mul_le_of_le_one_left hlow hhigh).trans hhalf
      have hdoubleNonneg := hdouble.ge onGrid_zero (by linarith)
      have hrestLe := hrest.le (onGrid_two_pow 2) (by linarith)
      calc _ ≤ 1 / 2 * 2 ^ 2 :=
            mul_le_mul (hsquare.le hgrid hle) hrestLe hrestNonneg (by norm_num)
        _ = 2 := by norm_num
    · have hle : value t * value t ≤ 2 ^ 0 := (mul_le_of_le_one_left hlow hhigh).trans hhigh
      have hdoubleGe := hdouble.ge (onGrid_two_pow 0) (by linarith)
      have hrestLe := hrest.le (onGrid_two_pow 1) (by linarith)
      calc _ ≤ 2 ^ 0 * 2 ^ 1 :=
            mul_le_mul (hsquare.le (onGrid_two_pow 0) hle) hrestLe hrestNonneg (by norm_num)
        _ = 2 := by norm_num
  have hgoal := hrounds.le (onGrid_two_pow 1) (hproduct.trans_eq (pow_one 2).symm)
  rwa [pow_one] at hgoal

/-- A finite step between two edges lies between zero and two. -/
theorem smoothstep_value {edge₀ edge₁ x : Float} (h : (smoothstep edge₀ edge₁ x).isFinite = true) :
    0 ≤ value (smoothstep edge₀ edge₁ x) ∧ value (smoothstep edge₀ edge₁ x) ≤ 2 := by
  unfold smoothstep at h ⊢
  have hfinite := (Double.mul_value (Double.mul_value h).1).1
  obtain ⟨hlow, hhigh⟩ : value 0 ≤ _ ∧ _ ≤ value 1 :=
    Double.value_clamp rfl rfl (by decide +kernel) hfinite
  rw [Double.value_zero] at hlow
  rw [Double.value_one.2] at hhigh
  exact ease_value h hlow hhigh

end Noise

/-! ## Octaves -/

namespace Fractal

/-- What holds of the amplitude of the next octave and of the sums when `n` octaves have been
added. -/
structure Added (n : ℕ) (amplitude total amplitudes : Float) : Prop where
  unit : amplitude.isFinite = true → 0 ≤ value amplitude ∧ value amplitude ≤ 1
  bound : total.isFinite = true → |value total| ≤ (2 ^ 12 * n : ℕ)
  divisor : amplitudes.isFinite = true → value amplitudes = 0 ∨ 1 ≤ value amplitudes
  next : amplitudes.isFinite = true → amplitude.isFinite = true →
    1 ≤ value amplitudes + value amplitude

namespace Added

/-- Before the first octave nothing is added. -/
theorem zero : Added 0 (Scalar.ofNat 1) (Scalar.ofNat 0) (Scalar.ofNat 0) := by
  have hzero : value (Scalar.ofNat 0) = 0 := Double.value_zero
  have hone : value (Scalar.ofNat 1) = 1 := Double.value_one.2
  constructor
  · exact fun _ => hone.symm ▸ ⟨zero_le_one, le_rfl⟩
  · exact fun _ => (abs_eq_zero.mpr hzero).le
  · exact fun _ => .inl hzero
  · exact fun _ _ => by rw [hzero, hone, zero_add]

variable {n : ℕ} {amplitude total amplitudes : Float} (h : Added n amplitude total amplitudes)
include h

/-- One more octave keeps the bounds. -/
theorem step {octave persistence : Float} (hn : n < 2 ^ 32) (hoctave : Within 12 octave)
    (hpersistence : 0 ≤ value persistence ∧ value persistence ≤ 1) :
    Added (n + 1) (amplitude * persistence) (total + octave * amplitude)
      (amplitudes + amplitude) := by
  have hamplitude (hfinite : (amplitude * persistence).isFinite = true) :
      0 ≤ value (amplitude * persistence) ∧ value (amplitude * persistence) ≤ 1 := by
    obtain ⟨hbefore, -, hrounds⟩ := Double.mul_value hfinite
    obtain ⟨hlow, hhigh⟩ := h.unit hbefore
    exact ⟨hrounds.ge onGrid_zero (mul_nonneg hlow hpersistence.1),
      hrounds.le (onGrid_two_pow 0) (mul_le_one₀ hhigh hpersistence.1 hpersistence.2)⟩
  have hamplitudes (hfinite : (amplitudes + amplitude).isFinite = true) :
      1 ≤ value (amplitudes + amplitude) := by
    obtain ⟨hbefore, hnext, hrounds⟩ := Double.add_value hfinite
    exact hrounds.ge (onGrid_two_pow 0) (h.next hbefore hnext)
  refine ⟨hamplitude, fun hfinite => ?_, fun hfinite => .inr (hamplitudes hfinite),
    fun hsum hnext => le_add_of_le_of_nonneg (hamplitudes hsum) (hamplitude hnext).1⟩
  -- the total grows by no more than one octave
  obtain ⟨hbefore, hproduct, hrounds⟩ := Double.add_value hfinite
  have hunit : Within 0 amplitude := fun hfinite =>
    abs_le.mpr ⟨by linarith [h.unit hfinite], (h.unit hfinite).2⟩
  have htotal := h.bound hbefore
  have hoctave : |value (octave * amplitude)| ≤ 2 ^ 12 := hoctave.mul hunit hproduct
  refine hrounds.magnitude_le (onGrid_natCast (by omega)) ((abs_add_le ..).trans ?_)
  push_cast at htotal ⊢
  linarith

/-- The sum of no more octaves than there can be, divided by the amplitudes. -/
theorem within_normalize (hn : n ≤ 2 ^ 32) : Within 44 (normalize total amplitudes) := by
  have hzero : Within 44 (Scalar.ofNat 0 : Float) := .ofNat (n := 0) (by norm_num) (by norm_num)
  have hquotient : Within 44 (total / amplitudes) := fun hfinite => by
    obtain ⟨hbefore, hrounds⟩ := Double.div_value hfinite
    have hle : |value total / value amplitudes| ≤ |value total| := by
      rw [abs_div]
      by_cases hsum : amplitudes.isFinite = true
      · rcases h.divisor hsum with hzero | hone
        · rw [hzero, abs_zero, div_zero]
          exact abs_nonneg _
        · exact div_le_self (abs_nonneg _) (hone.trans (le_abs_self _))
      · -- what is divided by infinity is zero
        rw [Double.value_of_not_isFinite hsum, abs_zero, div_zero]
        exact abs_nonneg _
    refine hrounds.magnitude_le (onGrid_two_pow _) (hle.trans ((h.bound hbefore).trans ?_))
    exact_mod_cast (by omega : 2 ^ 12 * n ≤ 2 ^ 44)
  unfold normalize Scalar.finiteOrZero
  split
  · split
    · exact hquotient
    · exact hzero
  · exact hzero

end Added

/-- Every octave keeps the bounds, so the last sums are within them. -/
theorem within_addOctaves2 {lacunarity persistence x z : Float}
    (hpersistence : 0 ≤ value persistence ∧ value persistence ≤ 1) {k n : ℕ} {seed : UInt64}
    {frequency amplitude total amplitudes : Float} (hn : n + k < 2 ^ 32)
    (h : Added n amplitude total amplitudes) :
    Within 44 (addOctaves2 lacunarity persistence x z k seed frequency amplitude total
      amplitudes) := by
  induction k generalizing n seed frequency amplitude total amplitudes with
  | zero => exact h.within_normalize (by omega)
  | succ k ih =>
    exact ih (by omega) (h.step (by omega) (Noise.within_value2 _ _ _) hpersistence)

/-- The noise of any number of octaves. -/
theorem within_sample2 (seed : UInt64) (octaves : UInt32) (frequency x z : Float) :
    Within 44 ((ofOctaves seed octaves frequency).sample2 x z) := by
  have hhalf : value (Scalar.ratio 1 2) = 1 / 2 := by decide +kernel
  have hpersistence : 0 ≤ value (Scalar.ratio 1 2) ∧ value (Scalar.ratio 1 2) ≤ 1 := by
    rw [hhalf]
    norm_num
  have hoctaves := octaves.toNat_lt
  exact within_addOctaves2 hpersistence (by rwa [zero_add]) .zero

end Fractal

end Landform
