import Landform.Proofs.Number.Spelling
import Landform.Proofs.Request.Names
import Landform.Text.Reader

/-! # Keys by their texts

The text of a key shows both coordinates, the seed and the name of the dimension. What stands
between two of them begins with a character that no number contains, so where a number ends can be
seen from the text. Every key is read back from its text, and nothing else is read as a key, so
that two keys never have the same text. -/

namespace Landform

/-! ## Numbers up to a mark -/

namespace Text

/-- Whether a character can be part of the text of a whole number. -/
def isNumberPart (c : Char) : Bool := c.isDigit || c == '-'

/-- Reads a number of the range in the form in which it is written. -/
def written? (r : WholeRange) (cs : List Char) : Option Int :=
  (r.read? cs).filter fun n => (toString n).toList == cs

/-- Reads a number of the range and skips the mark behind it. -/
def numberBefore? (r : WholeRange) (mark : List Char) : Reader Int := fun cs => do
  let n ← written? r (cs.takeWhile isNumberPart)
  let rest ← skipText mark (cs.dropWhile isNumberPart)
  some (n, rest)

theorem skipText_eq_some_iff {mark cs rest : List Char} :
    skipText mark cs = some rest ↔ cs = mark ++ rest := by
  induction mark generalizing cs with
  | nil => exact Option.some_inj
  | cons p mark ih =>
    cases cs with
    | nil => exact iff_of_false nofun nofun
    | cons c cs =>
      rw [skipText, List.cons_append, List.cons.injEq]
      split
      · rename_i h
        rw [ih, and_iff_right (beq_iff_eq.mp h).symm]
      · rename_i h
        exact iff_of_false nofun fun hcs => h (beq_iff_eq.mpr hcs.1.symm)

variable {r : WholeRange} {n : Int}

theorem WholeRange.read?_toString (h : r.lo ≤ n ∧ n ≤ r.hi) :
    r.read? (toString n).toList = some n := by
  -- a range without negative numbers refuses a minus, and then there is none
  have hsign : (decide (n < 0) && decide (0 ≤ r.lo)) = false := by
    rw [Bool.and_eq_false_iff, decide_eq_false_iff_not, decide_eq_false_iff_not]
    omega
  rw [read?, splitSign_toString]
  simp only [hsign, Bool.false_eq_true, if_false]
  rw [digits?_toDigits, Option.bind_some, signed_natAbs]
  exact if_pos h

theorem WholeRange.mem_of_read? {cs : List Char} (h : r.read? cs = some n) :
    r.lo ≤ n ∧ n ≤ r.hi := by
  unfold read? at h
  split at h
  rename_i minus ds _
  split at h
  · cases h
  · obtain ⟨k, -, hk⟩ := Option.bind_eq_some_iff.mp h
    exact (check_eq_some_iff.mp hk).2

/-- Just the texts of the numbers of a range are read. -/
theorem written?_eq_some_iff {cs : List Char} :
    written? r cs = some n ↔ (r.lo ≤ n ∧ n ≤ r.hi) ∧ cs = (toString n).toList := by
  rw [written?, Option.filter_eq_some_iff, beq_iff_eq]
  constructor
  · rintro ⟨hread, htext⟩
    exact ⟨WholeRange.mem_of_read? hread, htext.symm⟩
  · rintro ⟨hmem, rfl⟩
    exact ⟨WholeRange.read?_toString hmem, rfl⟩

/-- A mark that does not begin as a number goes on shows where a number ends. -/
theorem numberBefore?_eq_some_iff {mark cs rest : List Char} {c : Char}
    (hmark : mark.head? = some c) (hc : isNumberPart c = false) :
    numberBefore? r mark cs = some (n, rest) ↔
      (r.lo ≤ n ∧ n ≤ r.hi) ∧ cs = (toString n).toList ++ (mark ++ rest) := by
  have hnumeric : ∀ d ∈ (toString n).toList, isNumberPart d = true := by
    intro d hd
    simpa [isNumberPart] using isDigit_of_mem_toString hd
  have hend : ∀ d ∈ (mark ++ rest).head?, isNumberPart d = false := by
    intro d hd
    rw [List.head?_append, hmark] at hd
    cases hd
    exact hc
  simp only [numberBefore?, Option.bind_eq_bind, Option.bind_eq_some_iff, written?_eq_some_iff,
    skipText_eq_some_iff, Option.some_inj, Prod.mk.injEq]
  constructor
  · rintro ⟨n', ⟨hmem, htake⟩, rest', hdrop, rfl, rfl⟩
    refine ⟨hmem, ?_⟩
    rw [← htake, ← hdrop, List.takeWhile_append_dropWhile]
  · rintro ⟨hmem, rfl⟩
    obtain ⟨htake, hdrop⟩ := takeWhile_append_of_head hnumeric hend
    exact ⟨n, ⟨hmem, htake⟩, rest, hdrop, rfl, rfl⟩

end Text

/-! ## Keys -/

namespace ChunkKey

/-- The key with the given text. -/
def ofText? (s : String) : Option ChunkKey := do
  let cs ← Text.skipText "[".toList s.toList
  let (x, cs) ← Text.numberBefore? .int32 ", ".toList cs
  let (z, cs) ← Text.numberBefore? .int32 "] seed=".toList cs
  let (seed, cs) ← Text.numberBefore? .word64 " ".toList cs
  let d ← Dimension.all.find? fun d => d.name.toList == cs
  some ⟨Int32.ofInt x, Int32.ofInt z, UInt64.ofNat seed.toNat, d⟩

/-- The characters of the text of a key. -/
theorem toList_text (k : ChunkKey) :
    k.text.toList = "[".toList ++ ((toString k.x.toInt).toList ++ (", ".toList ++
      ((toString k.z.toInt).toList ++ ("] seed=".toList ++
        ((toString (k.seed.toNat : Int)).toList ++
          (" ".toList ++ k.dimension.name.toList)))))) := by
  simp only [text, String.toList_append, List.append_assoc]
  rfl

theorem find?_name_eq_some_iff {cs : List Char} {d : Dimension} :
    (Dimension.all.find? fun d => d.name.toList == cs) = some d ↔ cs = d.name.toList := by
  constructor
  · intro h
    have hname := List.find?_some (p := fun d : Dimension => d.name.toList == cs) h
    exact (beq_iff_eq.mp hname).symm
  · rintro rfl
    cases d <;> decide

/-- Just the texts of keys are read. -/
theorem ofText?_eq_some_iff {s : String} {k : ChunkKey} : ofText? s = some k ↔ s = k.text := by
  have hcomma {cs rest : List Char} {n : Int} :
      Text.numberBefore? .int32 ", ".toList cs = some (n, rest) ↔ _ :=
    Text.numberBefore?_eq_some_iff (c := ',') rfl rfl
  have hbracket {cs rest : List Char} {n : Int} :
      Text.numberBefore? .int32 "] seed=".toList cs = some (n, rest) ↔ _ :=
    Text.numberBefore?_eq_some_iff (c := ']') rfl rfl
  have hblank {cs rest : List Char} {n : Int} :
      Text.numberBefore? .word64 " ".toList cs = some (n, rest) ↔ _ :=
    Text.numberBefore?_eq_some_iff (c := ' ') rfl rfl
  rw [← String.toList_inj, toList_text]
  simp only [ofText?, Option.bind_eq_bind, Option.bind_eq_some_iff, Prod.exists,
    Text.skipText_eq_some_iff, hcomma, hbracket, hblank, find?_name_eq_some_iff, Option.some_inj]
  constructor
  · rintro ⟨_, hs, x, _, ⟨hx, rfl⟩, z, _, ⟨hz, rfl⟩, seed, _, ⟨hseed, rfl⟩, d, rfl, rfl⟩
    have hx' : (Int32.ofInt x).toInt = x :=
      Int32.toInt_ofInt_of_le hx.1 (Int.lt_add_one_of_le hx.2)
    have hz' : (Int32.ofInt z).toInt = z :=
      Int32.toInt_ofInt_of_le hz.1 (Int.lt_add_one_of_le hz.2)
    have hseed' : ((UInt64.ofNat seed.toNat).toNat : Int) = seed := by
      have hlt : seed.toNat < 2 ^ 64 := (Int.toNat_lt hseed.1).mpr (Int.lt_add_one_of_le hseed.2)
      rw [UInt64.toNat_ofNat_of_lt' hlt, Int.toNat_of_nonneg hseed.1]
    rw [hs, hx', hz', hseed']
  · intro hs
    have hseed : (k.seed.toNat : Int) ≤ 0xFFFFFFFFFFFFFFFF :=
      Int.le_of_lt_add_one (by exact_mod_cast k.seed.toNat_lt)
    refine ⟨_, hs, k.x.toInt, _, ⟨⟨k.x.le_toInt, Int.le_of_lt_add_one k.x.toInt_lt⟩, rfl⟩,
      k.z.toInt, _, ⟨⟨k.z.le_toInt, Int.le_of_lt_add_one k.z.toInt_lt⟩, rfl⟩, k.seed.toNat, _,
      ⟨⟨Int.natCast_nonneg _, hseed⟩, rfl⟩, k.dimension, rfl, ?_⟩
    rw [Int32.ofInt_toInt, Int32.ofInt_toInt, Int.toNat_natCast, UInt64.ofNat_toNat]

/-- The text of a key is read back as the key, with its coordinates, its seed and its dimension;
what is not read is not the text of any key; and different keys have different texts. -/
theorem text_identifies :
    (∀ k : ChunkKey, ofText? k.text = some k) ∧
      (∀ s, ofText? s = none ↔ ∀ k : ChunkKey, s ≠ k.text) ∧
      ∀ k l : ChunkKey, k.text = l.text ↔ k = l := by
  refine ⟨fun k => ofText?_eq_some_iff.mpr rfl, fun s => ?_, fun k l => ?_⟩
  · rw [Option.eq_none_iff_forall_ne_some]
    exact forall_congr' fun k => not_congr ofText?_eq_some_iff
  · rw [← ofText?_eq_some_iff, ofText?_eq_some_iff.mpr rfl, Option.some_inj]

/-- The ends of the ranges. -/
example : (⟨Int32.minValue, -1, 0xFFFFFFFFFFFFFFFF, .nether⟩ : ChunkKey).text =
    "[-2147483648, -1] seed=18446744073709551615 minecraft:the_nether" := by decide +kernel

end ChunkKey

end Landform
