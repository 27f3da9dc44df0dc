import Landform.Proofs.Number.Rounding

/-! # The bits of doubles

A double is its sign, its exponent and its fraction, side by side. Taking it apart and putting it
together again changes nothing, in either order. -/

namespace Landform

open Float.Model Float.Model.UnpackedFloat

/-! ## Components -/

theorem toNat_bits_append {a b : ℕ} (x : BitVec a) (y : BitVec b) :
    (x ++ y).toNat = x.toNat * 2 ^ b + y.toNat := by
  rw [BitVec.toNat_append, ← Nat.shiftLeft_add_eq_or_of_lt y.isLt, Nat.shiftLeft_eq]

theorem toNat_packComponents (s : Sign) (e : BitVec 11) (m : BitVec 52) :
    (packComponents Format.binary64 s e m).toNat =
      s.toBitVec.toNat * 2 ^ 63 + e.toNat * 2 ^ 52 + m.toNat := by
  rw [packComponents, toNat_bits_append, toNat_bits_append]
  ring

section Components

variable (b : BitVec 64)

theorem toNat_unpackMantissa :
    (@unpackMantissa Format.binary64 b).toNat = b.toNat % 2 ^ 52 := by
  simp [unpackMantissa]

theorem toNat_unpackExponent :
    (@unpackExponent Format.binary64 b).toNat = b.toNat / 2 ^ 52 % 2 ^ 11 := by
  simp [unpackExponent, Nat.shiftRight_eq_div_pow]

theorem toNat_unpackSign :
    (@unpackSign Format.binary64 b).toNat = b.toNat / 2 ^ 63 := by
  have hb : b.toNat < 2 ^ 64 := b.isLt
  simp [unpackSign, Nat.shiftRight_eq_div_pow]
  omega

theorem toBitVec_ofBitVec (b : BitVec 1) : (Sign.ofBitVec b).toBitVec = b := by
  revert b
  decide

theorem ofBitVec_toBitVec (s : Sign) : Sign.ofBitVec s.toBitVec = s := by
  cases s <;> rfl

theorem packComponents_unpack :
    packComponents Format.binary64 (Sign.ofBitVec (@unpackSign Format.binary64 b))
      (@unpackExponent Format.binary64 b)
      (@unpackMantissa Format.binary64 b) = b := by
  apply BitVec.eq_of_toNat_eq
  rw [toNat_packComponents, toBitVec_ofBitVec, toNat_unpackSign, toNat_unpackExponent,
    toNat_unpackMantissa]
  omega

theorem unpackSign_packComponents (s : Sign) (e : BitVec 11) (m : BitVec 52) :
    unpackSign (packComponents Format.binary64 s e m) = s.toBitVec := by
  apply BitVec.eq_of_toNat_eq
  have hs := s.toBitVec.isLt
  have he := e.isLt
  have hm := m.isLt
  rw [toNat_unpackSign, toNat_packComponents]
  omega

end Components

/-! ## Taking apart -/

section Unpack

variable (s : Sign) {e : BitVec 11} {f : BitVec 52}

theorem unpack_subnormal (hf : 0 < f.toNat) :
    UnpackedFloat.unpack Format.binary64 (packComponents Format.binary64 s 0#11 f) =
      .finite s f.toNat (-1074) hf := by
  have hzero : f ≠ 0#52 := by
    rintro rfl
    simp at hf
  simp only [UnpackedFloat.unpack, unpackMantissa_packComponents, unpackExponent_packComponents,
    unpackSign_packComponents, ofBitVec_toBitVec]
  rw [if_neg (by decide), if_pos trivial, dif_neg hzero]
  congr 1

theorem unpack_normal (hzero : e ≠ 0#11) (hmax : e ≠ -1#11) :
    UnpackedFloat.unpack Format.binary64 (packComponents Format.binary64 s e f) =
      .finite s (2 ^ 52 + f.toNat) (e.toNat - 1075) (by positivity) := by
  simp only [UnpackedFloat.unpack, unpackMantissa_packComponents, unpackExponent_packComponents,
    unpackSign_packComponents, ofBitVec_toBitVec]
  rw [if_neg hmax, if_neg hzero]
  congr 1
  rw [toNat_bits_append]
  rfl

/-- The exponent of all ones is that of the doubles that are not finite. -/
theorem unpack_infinity :
    UnpackedFloat.unpack Format.binary64 (packComponents Format.binary64 s (-1#11) 0#52) =
      .infinity s := by
  simp only [UnpackedFloat.unpack, unpackMantissa_packComponents, unpackExponent_packComponents,
    unpackSign_packComponents, ofBitVec_toBitVec]
  rfl

theorem unpack_notANumber (hf : f ≠ 0#52) :
    UnpackedFloat.unpack Format.binary64 (packComponents Format.binary64 s (-1#11) f) =
      .notANumber := by
  simp only [UnpackedFloat.unpack, unpackMantissa_packComponents, unpackExponent_packComponents,
    unpackSign_packComponents, ofBitVec_toBitVec]
  rw [if_pos trivial, if_neg hf]

theorem unpack_zero :
    UnpackedFloat.unpack Format.binary64 (packComponents Format.binary64 s 0#11 0#52) =
      .zero s := by
  simp only [UnpackedFloat.unpack, unpackMantissa_packComponents, unpackExponent_packComponents,
    unpackSign_packComponents, ofBitVec_toBitVec]
  rfl

end Unpack

/-- A pattern of bits by what it stands for. -/
inductive BitPattern : BitVec 64 → Prop where
  | infinity (s : Sign) : BitPattern (packComponents Format.binary64 s (-1#11) 0#52)
  | notANumber (s : Sign) {f : BitVec 52} (hf : f ≠ 0#52) :
      BitPattern (packComponents Format.binary64 s (-1#11) f)
  | zero (s : Sign) : BitPattern (packComponents Format.binary64 s 0#11 0#52)
  | subnormal (s : Sign) {f : BitVec 52} (hf : 0 < f.toNat) :
      BitPattern (packComponents Format.binary64 s 0#11 f)
  | normal (s : Sign) {e : BitVec 11} (f : BitVec 52) (hzero : e ≠ 0#11) (hmax : e ≠ -1#11) :
      BitPattern (packComponents Format.binary64 s e f)

theorem BitPattern.of (b : BitVec 64) : BitPattern b := by
  rw [← packComponents_unpack b]
  by_cases hmax : @unpackExponent Format.binary64 b = -1#11
  · rw [hmax]
    by_cases hf : @unpackMantissa Format.binary64 b = 0#52
    · rw [hf]
      exact .infinity _
    · exact .notANumber _ hf
  · by_cases hzero : @unpackExponent Format.binary64 b = 0#11
    · rw [hzero]
      by_cases hf : @unpackMantissa Format.binary64 b = 0#52
      · rw [hf]
        exact .zero _
      · exact .subnormal _ (Nat.pos_of_ne_zero fun h => hf (BitVec.eq_of_toNat_eq h))
    · exact .normal _ _ hzero hmax

theorem canonical_subnormal {f : BitVec 52} (hf : 0 < f.toNat) : Canonical f.toNat (-1074) :=
  ⟨hf, by omega, by omega, by omega, .inr rfl⟩

theorem canonical_normal {e : BitVec 11} (f : BitVec 52) (hzero : e ≠ 0#11) (hmax : e ≠ -1#11) :
    Canonical (2 ^ 52 + f.toNat) (e.toNat - 1075) := by
  have hpos : e.toNat ≠ 0 := fun h => hzero (BitVec.eq_of_toNat_eq h)
  have hlt : e.toNat ≠ 2047 := fun h => hmax (BitVec.eq_of_toNat_eq h)
  have hf := f.isLt
  have he := e.isLt
  exact ⟨by positivity, by omega, by omega, by omega, .inl (by omega)⟩

/-! ## Putting together -/

variable {m : ℕ} {q : ℤ}

theorem Canonical.pack_normal (h : Canonical m q) (s : Sign) (hm : 2 ^ 52 ≤ m) :
    UnpackedFloat.pack Format.binary64 (.finite s m q h.pos) =
      packComponents Format.binary64 s (BitVec.ofNat 11 (q + 1075).toNat) (BitVec.ofNat 52 m) := by
  have hlog : m.log2 + 1 = Format.mantissaBits .binary64 := by
    have hlt : m.log2 < 53 := (Nat.log2_lt h.pos.ne').mpr h.lt
    have hle : 52 ≤ m.log2 := (Nat.le_log2 h.pos.ne').mpr hm
    simp only [Format.mantissaBits]
    omega
  have hexponent : (q + (Format.exponentBias .binary64 : ℕ) + (52 : ℕ)).toNat =
      (q + 1075).toNat := by
    norm_num [Format.exponentBias]
    omega
  have hgreatest := h.greatest
  have hleast := h.least
  simp only [UnpackedFloat.pack, hexponent]
  rw [if_neg (by norm_num; omega), if_pos hlog]

theorem Canonical.pack_subnormal (h : Canonical m q) (s : Sign) (hm : m < 2 ^ 52) :
    UnpackedFloat.pack Format.binary64 (.finite s m q h.pos) =
      packComponents Format.binary64 s 0#11 (BitVec.ofNat 52 m) := by
  have hq : q = -1074 := h.normal.resolve_left (not_le.mpr hm)
  subst hq
  have hlog : ¬ m.log2 + 1 = Format.mantissaBits .binary64 := by
    have hlt : m.log2 < 52 := (Nat.log2_lt h.pos.ne').mpr hm
    simp only [Format.mantissaBits]
    omega
  simp only [UnpackedFloat.pack]
  rw [if_neg (by decide), if_neg hlog]

theorem toNat_ofNat_of_lt {w n : ℕ} (h : n < 2 ^ w) : (BitVec.ofNat w n).toNat = n := by
  rw [BitVec.toNat_ofNat, Nat.mod_eq_of_lt h]

theorem Canonical.toNat_exponent (h : Canonical m q) :
    (BitVec.ofNat 11 (q + 1075).toNat).toNat = (q + 1075).toNat := by
  have hgreatest := h.greatest
  exact toNat_ofNat_of_lt (by omega)

/-- The first bit of the mantissa is not kept. -/
theorem Canonical.toNat_fraction (h : Canonical m q) (hm : 2 ^ 52 ≤ m) :
    (BitVec.ofNat 52 m).toNat = m - 2 ^ 52 := by
  have hlt := h.lt
  rw [BitVec.toNat_ofNat]
  omega

/-- A double in canonical form is found again in its bits. -/
theorem Canonical.unpack_pack (h : Canonical m q) (s : Sign) :
    UnpackedFloat.unpack Format.binary64
        (UnpackedFloat.pack Format.binary64 (.finite s m q h.pos)) =
      .finite s m q h.pos := by
  have hlt := h.lt
  have hpos := h.pos
  have hleast := h.least
  have hgreatest := h.greatest
  by_cases hm : 2 ^ 52 ≤ m
  · have he := h.toNat_exponent
    have hf := h.toNat_fraction hm
    have hzero : BitVec.ofNat 11 (q + 1075).toNat ≠ 0#11 := by
      intro heq
      have htoNat := congrArg BitVec.toNat heq
      rw [he] at htoNat
      change _ = 0 at htoNat
      omega
    have hmax : BitVec.ofNat 11 (q + 1075).toNat ≠ -1#11 := by
      intro heq
      have htoNat := congrArg BitVec.toNat heq
      rw [he] at htoNat
      change _ = 2047 at htoNat
      omega
    have hmantissa : 2 ^ 52 + (BitVec.ofNat 52 m).toNat = m := by omega
    have hexponent : ((BitVec.ofNat 11 (q + 1075).toNat).toNat : ℤ) - 1075 = q := by omega
    rw [h.pack_normal s hm, unpack_normal s hzero hmax]
    simp only [hmantissa, hexponent]
  · have hf : (BitVec.ofNat 52 m).toNat = m := toNat_ofNat_of_lt (by omega)
    have hq : q = -1074 := h.normal.resolve_left hm
    rw [h.pack_subnormal s (not_le.mp hm), unpack_subnormal s (by omega)]
    simp only [hf, hq]

theorem ofNat_toNat_add (f : BitVec 52) : BitVec.ofNat 52 (2 ^ 52 + f.toNat) = f := by
  apply BitVec.eq_of_toNat_eq
  have hf := f.isLt
  rw [BitVec.toNat_ofNat]
  omega

theorem ofNat_toNat (f : BitVec 52) : BitVec.ofNat 52 f.toNat = f :=
  BitVec.eq_of_toNat_eq (toNat_ofNat_of_lt f.isLt)

/-- What a valid pattern of bits stands for has that pattern. -/
theorem pack_unpack {b : BitVec 64} (hb : Format.binary64.Valid b) :
    UnpackedFloat.pack Format.binary64 (UnpackedFloat.unpack Format.binary64 b) = b := by
  cases BitPattern.of b with
  | infinity s =>
    rw [unpack_infinity]
    rfl
  | notANumber s hf =>
    -- of the patterns of undefined numbers only one is valid
    rw [unpack_notANumber s hf]
    refine (hb.eq_packedNaN ?_ ?_).symm
    · rw [unpackExponent_packComponents]
    · rw [unpackMantissa_packComponents]
      exact hf
  | zero s =>
    rw [unpack_zero]
    rfl
  | @subnormal s f hf =>
    rw [unpack_subnormal s hf, (canonical_subnormal hf).pack_subnormal s f.isLt, ofNat_toNat]
  | @normal s e f hzero hmax =>
    have hexponent : BitVec.ofNat 11 ((e.toNat : ℤ) - 1075 + 1075).toNat = e := by
      have he : ((e.toNat : ℤ) - 1075 + 1075).toNat = e.toNat := by omega
      rw [he]
      exact BitVec.eq_of_toNat_eq (toNat_ofNat_of_lt e.isLt)
    rw [unpack_normal s hzero hmax,
      (canonical_normal f hzero hmax).pack_normal s (Nat.le_add_right _ _), hexponent,
      ofNat_toNat_add]

/-- What the bits of a finite double other than zero stand for is in canonical form. -/
theorem unpack_canonical {b : BitVec 64} {s : Sign} {hpos : 0 < m}
    (h : UnpackedFloat.unpack Format.binary64 b = .finite s m q hpos) : Canonical m q := by
  cases BitPattern.of b with
  | infinity s' =>
    rw [unpack_infinity] at h
    cases h
  | notANumber s' hf =>
    rw [unpack_notANumber s' hf] at h
    cases h
  | zero s' =>
    rw [unpack_zero] at h
    cases h
  | subnormal s' hf =>
    rw [unpack_subnormal s' hf] at h
    cases h
    exact canonical_subnormal hf
  | normal s' f hzero hmax =>
    rw [unpack_normal s' hzero hmax] at h
    cases h
    exact canonical_normal f hzero hmax

/-! ## Bits -/

/-- The bits of a double without its sign: the exponent above the fraction. -/
structure Encodes (n m : ℕ) (q : ℤ) : Prop where
  lt : n < 2047 * 2 ^ 52
  parts : if n / 2 ^ 52 = 0 then m = n % 2 ^ 52 ∧ q = -1074
    else m = n % 2 ^ 52 + 2 ^ 52 ∧ q = (n / 2 ^ 52 : ℕ) - 1075

theorem Encodes.pos {n : ℕ} (h : Encodes n m q) (hm : 0 < m) : 0 < n := by
  apply Nat.pos_of_ne_zero
  rintro rfl
  have hparts := h.parts
  simp at hparts
  omega

/-- The bits of a double in canonical form. -/
theorem Canonical.toNat_pack (h : Canonical m q) (s : Sign) :
    ∃ n, Encodes n m q ∧
      (UnpackedFloat.pack Format.binary64 (.finite s m q h.pos)).toNat =
        s.toBitVec.toNat * 2 ^ 63 + n := by
  have hlt := h.lt
  have hleast := h.least
  have hgreatest := h.greatest
  by_cases hm : 2 ^ 52 ≤ m
  · have he := h.toNat_exponent
    have hf := h.toNat_fraction hm
    refine ⟨(q + 1075).toNat * 2 ^ 52 + (m - 2 ^ 52), ⟨by omega, ?_⟩, ?_⟩
    · rw [if_neg (by omega)]
      constructor <;> omega
    · rw [h.pack_normal s hm, toNat_packComponents, he, hf, add_assoc]
  · have hf : (BitVec.ofNat 52 m).toNat = m := toNat_ofNat_of_lt (by omega)
    have hq : q = -1074 := h.normal.resolve_left hm
    refine ⟨m, ⟨by omega, ?_⟩, ?_⟩
    · rw [if_pos (by omega)]
      constructor <;> omega
    · have hzero : (0#11).toNat = 0 := rfl
      rw [h.pack_subnormal s (not_le.mp hm), toNat_packComponents, hf, hzero, zero_mul, add_zero]

/-! ## Doubles -/

/-- The double `m * 2 ^ q` with a sign. -/
def Canonical.float (h : Canonical m q) (s : Sign) : Float :=
  .ofModel (.pack (.finite s m q h.pos))

theorem Canonical.unpack_float (h : Canonical m q) (s : Sign) :
    (h.float s).toModel.unpack = .finite s m q h.pos := h.unpack_pack s

theorem Canonical.neg_float (h : Canonical m q) : -h.float .positive = h.float .negative := by
  change Float.ofModel (.pack (h.float .positive).toModel.unpack.neg) = _
  rw [h.unpack_float]
  rfl

theorem Canonical.toNat_toBits (h : Canonical m q) (s : Sign) :
    ∃ n, Encodes n m q ∧ (h.float s).toBits.toNat = s.toBitVec.toNat * 2 ^ 63 + n := h.toNat_pack s

/-- A double is made of what it stands for. -/
theorem ofModel_pack_unpack (x : Float) : Float.ofModel (.pack x.toModel.unpack) = x := by
  obtain ⟨⟨bits, hvalid⟩⟩ := x
  change Float.ofModel ⟨.ofBitVec (UnpackedFloat.pack Format.binary64
    (UnpackedFloat.unpack Format.binary64 bits.toBitVec)), _⟩ = _
  simp only [pack_unpack hvalid]

/-- The doubles that are numbers. -/
theorem cases_of_isNaN {x : Float} (h : x.isNaN = false) :
    (∃ s, x = .ofModel (.pack (.infinity s))) ∨ (∃ s, x = .ofModel (.pack (.zero s))) ∨
      ∃ m q, ∃ (h : Canonical m q) (s : Sign), x = h.float s := by
  have hpack := ofModel_pack_unpack x
  have hnan : x.toModel.unpack.isNaN = false := h
  cases hx : x.toModel.unpack with
  | infinity s =>
    rw [hx] at hpack
    exact .inl ⟨s, hpack.symm⟩
  | notANumber =>
    rw [hx] at hnan
    cases hnan
  | zero s =>
    rw [hx] at hpack
    exact .inr (.inl ⟨s, hpack.symm⟩)
  | finite s m q hpos =>
    rw [hx] at hpack
    exact .inr (.inr ⟨m, q, unpack_canonical hx, s, hpack.symm⟩)

end Landform
