import Landform.Checksum
import Landform.Terrain.Layout
import Mathlib.Data.List.Induction
import Mathlib.Tactic.Common
import Mathlib.Tactic.Ring

/-! # What a checksum tells apart

A checksum is a number in base 31, of which only 32 bits are kept. Its digits are the words of the
key and then the bytes that follow, so no bytes make the checksums of two keys differ, or agree,
that do not do so already. Keys whose words lie close together, or which differ in one word, are
told apart. Of all keys only some can be: a carry from one word into the next makes two alike. -/

namespace Landform.Checksum

/-! ## One word -/

/-- 31 has an inverse modulo `2 ^ 32`, so a step loses nothing of the checksum before it. -/
theorem fold_left_inj {h h' w : UInt32} : fold h w = fold h' w ↔ h = h' := by
  constructor
  · intro heq
    unfold fold at heq
    grind
  · rintro rfl
    rfl

theorem fold_right_inj {h w w' : UInt32} : fold h w = fold h w' ↔ w = w' := by
  constructor
  · intro heq
    unfold fold at heq
    grind
  · rintro rfl
    rfl

/-! ## Many words -/

theorem foldl_fold_inj {h h' : UInt32} (words : List UInt32) :
    words.foldl fold h = words.foldl fold h' ↔ h = h' := by
  induction words generalizing h h' with
  | nil => simp
  | cons w words ih => simp only [List.foldl_cons, ih, fold_left_inj]

/-- Words that differ in one place have different checksums. -/
theorem foldl_fold_ne {words words' : List UInt32} (start : UInt32)
    (hlen : words.length = words'.length) (hne : words ≠ words') {i : Nat}
    (hagree : ∀ j, j ≠ i → words[j]? = words'[j]?) :
    words.foldl fold start ≠ words'.foldl fold start := by
  induction words generalizing words' start i with
  | nil =>
    cases words' with
    | nil => exact absurd rfl hne
    | cons => simp at hlen
  | cons w words ih =>
    cases words' with
    | nil => simp at hlen
    | cons w' words' =>
      simp only [List.length_cons, Nat.add_right_cancel_iff] at hlen
      simp only [List.foldl_cons]
      cases i with
      | zero =>
        have htail : words = words' :=
          List.ext_getElem? fun j => by simpa using hagree (j + 1) (by omega)
        subst htail
        intro heq
        have hhead : w = w' := fold_right_inj.mp ((foldl_fold_inj words).mp heq)
        exact hne (by rw [hhead])
      | succ i =>
        have hhead : w = w' := by simpa using hagree 0 (by omega)
        subst hhead
        refine ih _ hlen (fun htail => hne (by rw [htail])) (i := i) fun j hj => ?_
        simpa using hagree (j + 1) (by omega)

theorem ofBytes_eq_foldl (k : ChunkKey) (bytes : List UInt8) :
    ofBytes k bytes = (bytes.map UInt8.toUInt32).foldl fold (ofKey k) := by
  rw [ofBytes, List.foldl_map]

theorem ofBytes_eq_iff {k l : ChunkKey} (bytes : List UInt8) :
    ofBytes k bytes = ofBytes l bytes ↔ ofKey k = ofKey l := by
  rw [ofBytes_eq_foldl, ofBytes_eq_foldl, foldl_fold_inj]

/-! ## Numbers in base 31 -/

/-- The number with the given digits in base 31, of which the last one counts the units. -/
def base31 (digits : List Int) : Int := digits.foldl (fun n d => n * 31 + d) 0

theorem base31_concat (digits : List Int) (d : Int) :
    base31 (digits ++ [d]) = base31 digits * 31 + d := by
  simp [base31]

theorem base31_sub {digits digits' : List Int} (h : digits.length = digits'.length) :
    base31 (List.zipWith (· - ·) digits digits') = base31 digits - base31 digits' := by
  induction digits using List.reverseRecOn generalizing digits' with
  | nil =>
    obtain rfl : digits' = [] := by simpa using h.symm
    rfl
  | append_singleton digits d ih =>
    cases digits' using List.reverseRecOn with
    | nil => simp at h
    | append_singleton digits' d' =>
      have hlen : digits.length = digits'.length := by simpa using h
      rw [List.zipWith_append hlen, List.zipWith_cons_cons, List.zipWith_nil_left, base31_concat,
        base31_concat, base31_concat, ih hlen]
      ring

/-- Digits that are less than 31, of either sign, stand for less than the next power of 31. -/
theorem base31_bounds {digits : List Int} (h : ∀ d ∈ digits, -30 ≤ d ∧ d ≤ 30) :
    -31 ^ digits.length < base31 digits ∧ base31 digits < 31 ^ digits.length := by
  induction digits using List.reverseRecOn with
  | nil => decide
  | append_singleton digits d ih =>
    obtain ⟨hlow, hhigh⟩ := ih fun e he => h e (by simp [he])
    obtain ⟨hd, hd'⟩ := h d (by simp)
    rw [base31_concat, List.length_append, List.length_singleton, pow_succ]
    omega

/-- The last digit is a remainder by 31, so one digit after the other is zero. -/
theorem eq_zero_of_base31_eq_zero {digits : List Int} (h : ∀ d ∈ digits, -30 ≤ d ∧ d ≤ 30)
    (hzero : base31 digits = 0) : ∀ d ∈ digits, d = 0 := by
  induction digits using List.reverseRecOn with
  | nil => simp
  | append_singleton digits d ih =>
    have hd := h d (by simp)
    rw [base31_concat] at hzero
    have hlast : d = 0 := by omega
    have hrest := ih (fun e he => h e (by simp [he])) (by omega)
    intro e he
    obtain he | he := List.mem_append.mp he
    · exact hrest e he
    · rw [List.mem_singleton.mp he, hlast]

/-! ## Keys as digits -/

/-- The words of a key as integers. Coordinates keep their sign. -/
def keyDigits (k : ChunkKey) : List Int :=
  [k.x.toInt, k.z.toInt, k.seed.toNat % 2 ^ 32, k.seed.toNat / 2 ^ 32, k.dimension.code.toNat]

theorem length_keyDigits (k : ChunkKey) : (keyDigits k).length = 5 := rfl

theorem toNat_high (seed : UInt64) : (seed >>> 32).toNat = seed.toNat / 2 ^ 32 := by
  rw [UInt64.toNat_shiftRight, Nat.shiftRight_eq_div_pow]
  rfl

/-- The words of a key are the key. -/
theorem keyWords_inj {k l : ChunkKey} (h : keyWords k = keyWords l) : k = l := by
  simp only [keyWords, List.cons.injEq, and_true] at h
  obtain ⟨hx, hz, hlow, hhigh, hdim⟩ := h
  have hx' : k.x = l.x := by simpa using congrArg UInt32.toInt32 hx
  have hz' : k.z = l.z := by simpa using congrArg UInt32.toInt32 hz
  have hseed : k.seed = l.seed := by
    have hlow' := congrArg UInt32.toNat hlow
    have hhigh' := congrArg UInt32.toNat hhigh
    have hk := k.seed.toNat_lt
    have hl := l.seed.toNat_lt
    simp only [UInt64.toNat_toUInt32, toNat_high] at hlow' hhigh'
    exact UInt64.toNat_inj.mp (by omega)
  have hdim' : k.dimension = l.dimension := by
    cases hk : k.dimension <;> cases hl : l.dimension <;> rw [hk, hl] at hdim <;>
      first | rfl | exact absurd hdim (by decide)
  obtain ⟨x, z, seed, dimension⟩ := k
  obtain ⟨x', z', seed', dimension'⟩ := l
  exact ChunkKey.mk.injEq .. ▸ ⟨hx', hz', hseed, hdim'⟩

theorem ofInt_eq_iff {a b : Int} : UInt32.ofInt a = UInt32.ofInt b ↔ (2 ^ 32 : Int) ∣ a - b := by
  rw [← UInt32.toNat_inj, UInt32.ofInt, UInt32.ofInt, UInt32.toNat_ofNat', UInt32.toNat_ofNat']
  omega

theorem toUInt32_eq_ofInt (x : Int32) : x.toUInt32 = UInt32.ofInt x.toInt := by
  have hbits : (BitVec.ofInt 32 x.toBitVec.toInt).toNat = x.toBitVec.toNat := by
    rw [BitVec.ofInt_toInt]
  rw [BitVec.toNat_ofInt] at hbits
  have hlt : x.toBitVec.toNat < 2 ^ 32 := x.toBitVec.isLt
  apply UInt32.toNat_inj.mp
  rw [UInt32.ofInt, UInt32.toNat_ofNat']
  change x.toBitVec.toNat = (x.toBitVec.toInt % 2 ^ 32).toNat % 2 ^ 32
  omega

/-- The words of a key are its digits modulo `2 ^ 32`. -/
theorem keyWords_eq_map (k : ChunkKey) : keyWords k = (keyDigits k).map UInt32.ofInt := by
  have hlow : k.seed.toUInt32 = UInt32.ofInt (k.seed.toNat % 2 ^ 32) := by
    apply UInt32.toNat_inj.mp
    rw [UInt32.ofInt, UInt32.toNat_ofNat', UInt64.toNat_toUInt32]
    omega
  have hhigh : (k.seed >>> 32).toUInt32 = UInt32.ofInt (k.seed.toNat / 2 ^ 32) := by
    have hlt := k.seed.toNat_lt
    apply UInt32.toNat_inj.mp
    rw [UInt32.ofInt, UInt32.toNat_ofNat', UInt64.toNat_toUInt32, toNat_high]
    omega
  have hdim : k.dimension.code.toUInt32 = UInt32.ofInt k.dimension.code.toNat := by
    cases k.dimension <;> rfl
  simp only [keyWords, keyDigits, List.map_cons, List.map_nil, toUInt32_eq_ofInt, hlow, hhigh, hdim]

theorem keyDigits_inj {k l : ChunkKey} (h : keyDigits k = keyDigits l) : k = l :=
  keyWords_inj (by rw [keyWords_eq_map, keyWords_eq_map, h])

theorem foldl_fold_ofInt (digits : List Int) (start : Int) :
    (digits.map UInt32.ofInt).foldl fold (UInt32.ofInt start) =
      UInt32.ofInt (start * 31 ^ digits.length + base31 digits) := by
  induction digits using List.reverseRecOn with
  | nil => simp [base31]
  | append_singleton digits d ih =>
    have hstep (n : Int) : fold (UInt32.ofInt n) (UInt32.ofInt d) = UInt32.ofInt (n * 31 + d) := by
      rw [UInt32.ofInt_add, UInt32.ofInt_mul]
      rfl
    rw [List.map_append, List.foldl_append, ih, List.map_singleton, List.foldl_cons, List.foldl_nil,
      hstep, base31_concat, List.length_append, List.length_singleton, pow_succ]
    congr 1
    ring

/-- The checksums of two keys agree where their digits stand for the same number modulo
`2 ^ 32`. -/
theorem ofKey_eq_iff {k l : ChunkKey} :
    ofKey k = ofKey l ↔
      (2 ^ 32 : Int) ∣ base31 (keyDigits k) - base31 (keyDigits l) := by
  have hof (key : ChunkKey) :
      ofKey key = UInt32.ofInt (17 * 31 ^ 5 + base31 (keyDigits key)) := by
    rw [ofKey, keyWords_eq_map]
    exact foldl_fold_ofInt (keyDigits key) 17
  rw [hof, hof, ofInt_eq_iff, add_sub_add_left_eq_sub]

/-! ## Keys told apart -/

/-- Keys are close when none of their words lie more than 30 apart. -/
def Close (k l : ChunkKey) : Prop :=
  ∀ d ∈ List.zipWith (· - ·) (keyDigits k) (keyDigits l), -30 ≤ d ∧ d ≤ 30

/-- The words of two keys agree in all places but one. -/
def AlikeBut (place : Nat) (k l : ChunkKey) : Prop :=
  ∀ i, i ≠ place → (keyWords k)[i]? = (keyWords l)[i]?

theorem eq_of_zipWith_sub {digits digits' : List Int} (hlen : digits.length = digits'.length)
    (h : ∀ d ∈ List.zipWith (· - ·) digits digits', d = 0) : digits = digits' := by
  induction digits generalizing digits' with
  | nil => exact (List.length_eq_zero_iff.mp hlen.symm).symm
  | cons d digits ih =>
    cases digits' with
    | nil => simp at hlen
    | cons d' digits' =>
      simp only [List.zipWith_cons_cons, List.forall_mem_cons] at h
      rw [ih (by simpa using hlen) h.2, sub_eq_zero.mp h.1]

theorem eq_of_close {k l : ChunkKey} (hclose : Close k l) (h : ofKey k = ofKey l) : k = l := by
  have hlen : (keyDigits k).length = (keyDigits l).length := by simp only [length_keyDigits]
  have hdvd := ofKey_eq_iff.mp h
  -- five digits below 31 stay far below `2 ^ 32`, so nothing is lost modulo that
  obtain ⟨hlow, hhigh⟩ := base31_bounds hclose
  rw [List.length_zipWith, ← hlen, Nat.min_self, length_keyDigits, base31_sub hlen] at hlow hhigh
  have hzero : base31 (keyDigits k) - base31 (keyDigits l) = 0 := by omega
  have hdigits := eq_zero_of_base31_eq_zero hclose ((base31_sub hlen).trans hzero)
  exact keyDigits_inj (eq_of_zipWith_sub hlen hdigits)

theorem eq_of_alikeBut {k l : ChunkKey} {place : Nat} (halike : AlikeBut place k l)
    (h : ofKey k = ofKey l) : k = l := by
  by_contra hne
  have hwords : keyWords k ≠ keyWords l := fun heq => hne (keyWords_inj heq)
  have hlen : (keyWords k).length = (keyWords l).length := rfl
  exact foldl_fold_ne 17 hlen hwords halike h

/-- Whatever bytes follow them, two keys have the same checksum exactly where their words stand for
the same number in base 31 modulo `2 ^ 32`. So different keys with the same bytes have different
checksums if their words lie close together, and also if they differ in a single word. -/
theorem ofBytes_eq_iff_dvd (k l : ChunkKey) (bytes : List UInt8) :
    (ofBytes k bytes = ofBytes l bytes ↔
        (2 ^ 32 : Int) ∣ base31 (keyDigits k) - base31 (keyDigits l)) ∧
      (k ≠ l → Close k l → ofBytes k bytes ≠ ofBytes l bytes) ∧
      (k ≠ l → (∃ place, AlikeBut place k l) → ofBytes k bytes ≠ ofBytes l bytes) := by
  refine ⟨?_, ?_, ?_⟩
  · rw [ofBytes_eq_iff, ofKey_eq_iff]
  · intro hne hclose heq
    exact hne (eq_of_close hclose ((ofBytes_eq_iff bytes).mp heq))
  · rintro hne ⟨place, halike⟩ heq
    exact hne (eq_of_alikeBut halike ((ofBytes_eq_iff bytes).mp heq))

/-- Seeds next to each other lie close together, and here they also differ in a single word. -/
theorem ofBytes_ne_of_next_seed :
    (⟨4, -4, 100, .nether⟩ : ChunkKey) ≠ ⟨4, -4, 101, .nether⟩ ∧
      Close ⟨4, -4, 100, .nether⟩ ⟨4, -4, 101, .nether⟩ ∧
      AlikeBut 2 ⟨4, -4, 100, .nether⟩ ⟨4, -4, 101, .nether⟩ ∧
      ∀ bytes, ofBytes ⟨4, -4, 100, .nether⟩ bytes ≠ ofBytes ⟨4, -4, 101, .nether⟩ bytes := by
  have hne : (⟨4, -4, 100, .nether⟩ : ChunkKey) ≠ ⟨4, -4, 101, .nether⟩ := by decide
  have hclose : Close ⟨4, -4, 100, .nether⟩ ⟨4, -4, 101, .nether⟩ := by
    unfold Close
    decide
  have halike : AlikeBut 2 ⟨4, -4, 100, .nether⟩ ⟨4, -4, 101, .nether⟩ := by
    intro i hi
    match i with
    | 0 | 1 | 3 | 4 => rfl
    | 2 => exact absurd rfl hi
    | i + 5 => rfl
  refine ⟨hne, hclose, halike, fun bytes => ?_⟩
  exact (ofBytes_eq_iff_dvd _ _ bytes).2.2 hne ⟨2, halike⟩

/-- A step of one along x weighs as much as one of 31 along z, so these two keys have the same
checksum under any biomes. -/
theorem ofBiomes_collision :
    (⟨1, 0, 0, .overworld⟩ : ChunkKey) ≠ ⟨0, 31, 0, .overworld⟩ ∧
      (⟨1, 0, 0, .overworld⟩ : ChunkKey).inRange ∧ (⟨0, 31, 0, .overworld⟩ : ChunkKey).inRange ∧
      ∀ biome : ColumnField Biome,
        ofBiomes ⟨1, 0, 0, .overworld⟩ biome.toList =
          ofBiomes ⟨0, 31, 0, .overworld⟩ biome.toList := by
  refine ⟨by decide, by decide, by decide, fun biome => ?_⟩
  rw [ofBiomes, ofBiomes, ofBytes_eq_iff]
  rfl

end Landform.Checksum
