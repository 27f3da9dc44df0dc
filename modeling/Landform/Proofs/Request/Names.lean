import Landform.Proofs.Number.Spelling
import Landform.Proofs.Text.Trimmed
import Landform.Request

/-! # Names of dimensions

A text names a dimension by its code, which is a numeral with 32 bits, or else by a name, in front
of which the namespace may stand once. Blanks around the text and the case of its letters make no
difference. Of the texts that name no dimension, numerals with 32 bits are reported as codes, and
all others as names, just as they were written. -/

namespace Landform

/-! ## Numerals -/

namespace Text

/-- A run of decimal digits. -/
def IsDigits (ds : List Char) : Prop := ds ≠ [] ∧ ∀ c ∈ ds, c.isDigit = true

/-- A text is a whole number: decimal digits after an optional sign. -/
inductive Numeral : List Char → Int → Prop where
  | plain {ds : List Char} (h : IsDigits ds) : Numeral ds (Nat.ofDigitChars 10 ds 0)
  | plus {ds : List Char} (h : IsDigits ds) : Numeral ('+' :: ds) (Nat.ofDigitChars 10 ds 0)
  | minus {ds : List Char} (h : IsDigits ds) : Numeral ('-' :: ds) (-Nat.ofDigitChars 10 ds 0)

theorem digits?_eq_some_iff {cs : List Char} {n : Nat} :
    digits? cs = some n ↔ IsDigits cs ∧ n = Nat.ofDigitChars 10 cs 0 := by
  by_cases h : IsDigits cs
  · rw [digits?_of_isDigit h.1 h.2, Option.some_inj]
    exact ⟨fun hn => ⟨h, hn.symm⟩, fun hn => hn.2.symm⟩
  · have hnone : digits? cs = none := by
      refine if_neg fun hdigits => h ?_
      simpa [IsDigits] using hdigits
    rw [hnone]
    exact iff_of_false nofun fun hn => h hn.1

theorem IsDigits.splitSign {ds : List Char} (h : IsDigits ds) : splitSign ds = (false, ds) :=
  splitSign_append false fun c hc => h.2 c (List.mem_of_mem_head? hc)

/-- The sign goes to the number that the digits stand for. -/
theorem numeral_iff {cs : List Char} {n : Int} :
    Numeral cs n ↔
      ∃ k, digits? (Text.splitSign cs).2 = some k ∧
        n = if (Text.splitSign cs).1 then -(k : Int) else k := by
  simp only [digits?_eq_some_iff]
  constructor
  · intro h
    cases h with
    | plain hds =>
      rw [hds.splitSign]
      exact ⟨_, ⟨hds, rfl⟩, rfl⟩
    | plus hds | minus hds => exact ⟨_, ⟨hds, rfl⟩, rfl⟩
  · rintro ⟨k, ⟨hds, rfl⟩, rfl⟩
    unfold Text.splitSign at hds ⊢
    split at hds
    · exact .plus hds
    · exact .minus hds
    · exact .plain hds

theorem Numeral.unique {cs : List Char} {m n : Int} (hm : Numeral cs m) (hn : Numeral cs n) :
    m = n := by
  obtain ⟨k, hk, rfl⟩ := numeral_iff.mp hm
  obtain ⟨l, hl, rfl⟩ := numeral_iff.mp hn
  rw [Option.some_inj.mp (hk.symm.trans hl)]

/-- A whole number begins with a sign or a digit. -/
theorem Numeral.head {cs : List Char} {n : Int} (h : Numeral cs n) :
    ∀ c ∈ cs.head?, c = '+' ∨ c = '-' ∨ c.isDigit = true := by
  intro c hc
  cases h with
  | plain hds => exact .inr (.inr (hds.2 c (List.mem_of_mem_head? hc)))
  | plus => exact .inl (Option.some_inj.mp hc).symm
  | minus => exact .inr (.inl (Option.some_inj.mp hc).symm)

theorem WholeRange.check_eq_some_iff {r : WholeRange} {m n : Int} :
    r.check m = some n ↔ m = n ∧ r.lo ≤ n ∧ n ≤ r.hi := by
  unfold check
  split
  · rename_i hin
    rw [Option.some_inj]
    exact ⟨fun h => ⟨h, h ▸ hin⟩, And.left⟩
  · rename_i hout
    exact iff_of_false nofun fun h => hout (h.1 ▸ h.2)

/-- A range with negative numbers reads the numerals of its numbers. -/
theorem WholeRange.read?_eq_some_iff {r : WholeRange} (hr : r.lo < 0) {cs : List Char} {n : Int} :
    r.read? cs = some n ↔ Numeral cs n ∧ r.lo ≤ n ∧ n ≤ r.hi := by
  have hsigned : decide (0 ≤ r.lo) = false := decide_eq_false (Int.not_le.mpr hr)
  unfold read?
  simp only [hsigned, Bool.and_false, Bool.false_eq_true, if_false, Option.bind_eq_some_iff,
    check_eq_some_iff, numeral_iff]
  constructor
  · rintro ⟨k, hk, rfl, hin⟩
    exact ⟨⟨k, hk, rfl⟩, hin⟩
  · rintro ⟨⟨k, hk, rfl⟩, hin⟩
    exact ⟨k, hk, rfl, hin⟩

/-- Numerals of 32 bits are read as the numbers they are, and nothing else is read. -/
theorem int32_read?_eq_some_iff {cs : List Char} {n : Int} :
    WholeRange.int32.read? cs = some n ↔
      ∃ code : Int32, code.toInt = n ∧ Numeral cs code.toInt := by
  rw [WholeRange.read?_eq_some_iff (by decide)]
  constructor
  · rintro ⟨hcs, hlow, hhigh⟩
    have hcode : (Int32.ofInt n).toInt = n :=
      Int32.toInt_ofInt_of_le hlow (Int.lt_add_one_of_le hhigh)
    exact ⟨Int32.ofInt n, hcode, hcode.symm ▸ hcs⟩
  · rintro ⟨code, rfl, hcs⟩
    exact ⟨hcs, code.le_toInt, Int.le_of_lt_add_one code.toInt_lt⟩

theorem int32_read?_eq_none_iff {cs : List Char} :
    WholeRange.int32.read? cs = none ↔ ∀ code : Int32, ¬Numeral cs code.toInt := by
  rw [Option.eq_none_iff_forall_ne_some]
  constructor
  · intro h code hcs
    exact h _ (int32_read?_eq_some_iff.mpr ⟨code, rfl, hcs⟩)
  · intro h n hn
    obtain ⟨code, -, hcs⟩ := int32_read?_eq_some_iff.mp hn
    exact h code hcs

end Text

/-! ## Names -/

namespace Dimension

/-- The names without the namespace. -/
inductive Named : List Char → Dimension → Prop where
  | overworld : Named "overworld".toList overworld
  | nether : Named "nether".toList nether
  | theNether : Named "the_nether".toList nether
  | end_ : Named "end".toList end_
  | theEnd : Named "the_end".toList end_

/-- A text without the namespace in front of it, which is taken off once if it is there. -/
inductive Unprefixed : List Char → List Char → Prop where
  | removed (u : List Char) : Unprefixed ("minecraft:".toList ++ u) u
  | absent {t : List Char} (h : ¬"minecraft:".toList <+: t) : Unprefixed t t

theorem Unprefixed.ofName?_iff {t u : List Char} {d : Dimension} (h : Unprefixed t u) :
    ofName? t = some d ↔ Named u d := by
  have hrest : (if "minecraft:".toList.isPrefixOf t then t.drop 10 else t) = u := by
    cases h with
    | removed u => rw [if_pos (List.isPrefixOf_iff_prefix.mpr (List.prefix_append _ _))]; rfl
    | absent h => rw [if_neg (mt List.isPrefixOf_iff_prefix.mp h)]
  unfold ofName?
  rw [hrest]
  dsimp only
  constructor
  · intro h
    split at h
    · rename_i hu
      cases h
      exact hu ▸ .overworld
    split at h
    · rename_i hu
      cases h
      exact hu.elim (· ▸ .nether) (· ▸ .theNether)
    split at h
    · rename_i hu
      cases h
      exact hu.elim (· ▸ .end_) (· ▸ .theEnd)
    · cases h
  · rintro (_ | _ | _ | _ | _) <;> rfl

theorem exists_unprefixed (t : List Char) : ∃ u, Unprefixed t u := by
  by_cases h : "minecraft:".toList <+: t
  · obtain ⟨u, rfl⟩ := h
    exact ⟨u, .removed u⟩
  · exact ⟨t, .absent h⟩

/-- What a text says, without the blanks around it and the case of its letters. -/
def Plain (s : String) (t : List Char) : Prop :=
  ∃ b, Text.Trimmed s.toList b ∧ t = b.map Char.toLower

/-- What a text is read as. -/
inductive Reads (s : String) : Except RequestError Dimension → Prop where
  | code {t : List Char} {code : Int32} {d : Dimension} (plain : Plain s t)
      (numeral : Text.Numeral t code.toInt) (known : code.toInt = d.code.toNat) : Reads s (.ok d)
  | unknownCode {t : List Char} {code : Int32} (plain : Plain s t)
      (numeral : Text.Numeral t code.toInt) (unknown : ∀ d : Dimension, code.toInt ≠ d.code.toNat) :
      Reads s (.error (.invalidDimension code))
  | name {t u : List Char} {d : Dimension} (plain : Plain s t)
      (noCode : ∀ code : Int32, ¬Text.Numeral t code.toInt) (unprefixed : Unprefixed t u)
      (named : Named u d) : Reads s (.ok d)
  | unknownName {t u : List Char} (plain : Plain s t)
      (noCode : ∀ code : Int32, ¬Text.Numeral t code.toInt) (unprefixed : Unprefixed t u)
      (unknown : ∀ d, ¬Named u d) : Reads s (.error (.unknownDimension s))

theorem plain_iff {s : String} {t : List Char} :
    Plain s t ↔ t = (Text.trim s.toList).map Char.toLower := by
  constructor
  · rintro ⟨b, hb, rfl⟩
    rw [hb.eq_trim]
  · rintro rfl
    exact ⟨_, Text.trimmed_trim _, rfl⟩

theorem ofCode_eq_ok {code : Int32} {d : Dimension} (h : code.toInt = d.code.toNat) :
    ofCode code = .ok d := by
  have hcode : code = Int32.ofInt d.code.toNat := by rw [← h, Int32.ofInt_toInt]
  rw [hcode]
  cases d <;> rfl

theorem ofCode_eq_error {code : Int32} (h : ∀ d : Dimension, code.toInt ≠ d.code.toNat) :
    ofCode code = .error (.invalidDimension code) := by
  have hne (d : Dimension) : code ≠ Int32.ofInt d.code.toNat := by
    rintro rfl
    exact h d (by cases d <;> rfl)
  have hnone : ofCode? code = none := by
    unfold ofCode?
    exact (if_neg (hne .overworld)).trans ((if_neg (hne .nether)).trans (if_neg (hne .end_)))
  rw [ofCode, hnone]

section Text

variable {s : String} {t : List Char}

/-- A text with a code is read as the dimension with that code. -/
theorem ofText_of_numeral {code : Int32} (ht : Plain s t) (h : Text.Numeral t code.toInt) :
    ofText s = ofCode code := by
  unfold ofText
  dsimp only
  rw [← plain_iff.mp ht, Text.int32_read?_eq_some_iff.mpr ⟨code, rfl, h⟩]
  exact congrArg ofCode (Int32.ofInt_toInt code)

/-- A text without a code is read as a name. -/
theorem ofText_of_not_numeral (ht : Plain s t) (h : ∀ code : Int32, ¬Text.Numeral t code.toInt) :
    ofText s = (ofName? t).elim (.error (.unknownDimension s)) .ok := by
  have hread := Text.int32_read?_eq_none_iff.mpr h
  simp only [ofText, ← plain_iff.mp ht, hread]
  cases ofName? t <;> rfl

theorem ofText_of_reads {r : Except RequestError Dimension} (h : Reads s r) : ofText s = r := by
  cases h with
  | code hplain hnumeral hknown =>
    rw [ofText_of_numeral hplain hnumeral, ofCode_eq_ok hknown]
  | unknownCode hplain hnumeral hunknown =>
    rw [ofText_of_numeral hplain hnumeral, ofCode_eq_error hunknown]
  | name hplain hnone hrest hnamed =>
    rw [ofText_of_not_numeral hplain hnone, hrest.ofName?_iff.mpr hnamed, Option.elim_some]
  | unknownName hplain hnone hrest hunknown =>
    have hname := Option.eq_none_iff_forall_ne_some.mpr fun d hd =>
      hunknown d (hrest.ofName?_iff.mp hd)
    rw [ofText_of_not_numeral hplain hnone, hname, Option.elim_none]

theorem reads_ofText (s : String) : Reads s (ofText s) := by
  have hplain : Plain s ((Text.trim s.toList).map Char.toLower) := plain_iff.mpr rfl
  by_cases hcode : ∃ code : Int32, Text.Numeral ((Text.trim s.toList).map Char.toLower) code.toInt
  · obtain ⟨code, hnumeral⟩ := hcode
    rw [ofText_of_numeral hplain hnumeral]
    by_cases hknown : ∃ d : Dimension, code.toInt = d.code.toNat
    · obtain ⟨d, hd⟩ := hknown
      rw [ofCode_eq_ok hd]
      exact .code hplain hnumeral hd
    · have hunknown : ∀ d : Dimension, code.toInt ≠ d.code.toNat := fun d hd => hknown ⟨d, hd⟩
      rw [ofCode_eq_error hunknown]
      exact .unknownCode hplain hnumeral hunknown
  · have hnone : ∀ code : Int32, ¬Text.Numeral _ code.toInt := fun code h => hcode ⟨code, h⟩
    obtain ⟨u, hrest⟩ := exists_unprefixed ((Text.trim s.toList).map Char.toLower)
    rw [ofText_of_not_numeral hplain hnone]
    cases hname : ofName? ((Text.trim s.toList).map Char.toLower) with
    | some d => exact .name hplain hnone hrest (hrest.ofName?_iff.mp hname)
    | none =>
      refine .unknownName hplain hnone hrest fun d hd => ?_
      rw [hrest.ofName?_iff.mpr hd] at hname
      cases hname

theorem ofText_eq_iff {r : Except RequestError Dimension} : ofText s = r ↔ Reads s r :=
  ⟨fun h => h ▸ reads_ofText s, ofText_of_reads⟩

/-- A number is no name, with the namespace in front or without. -/
theorem unprefixed_of_numeral {n : Int} (h : Text.Numeral t n) : Unprefixed t t := by
  refine .absent ?_
  rintro ⟨u, rfl⟩
  exact absurd (h.head 'm' rfl) (by decide)

theorem not_named_of_numeral {n : Int} (h : Text.Numeral t n) (d : Dimension) : ¬Named t d := by
  intro hd
  cases hd with
  | overworld => exact absurd (h.head 'o' rfl) (by decide)
  | nether => exact absurd (h.head 'n' rfl) (by decide)
  | theNether | theEnd => exact absurd (h.head 't' rfl) (by decide)
  | end_ => exact absurd (h.head 'e' rfl) (by decide)

/-- Numbers with more than 32 bits are no codes, so they are taken for names. -/
theorem ofText_of_large {n : Int} (ht : Plain s t) (h : Text.Numeral t n)
    (hn : ¬(-2 ^ 31 ≤ n ∧ n < 2 ^ 31)) : ofText s = .error (.unknownDimension s) := by
  have hnone : ∀ code : Int32, ¬Text.Numeral t code.toInt := by
    intro code hcode
    rw [h.unique hcode] at hn
    exact hn ⟨code.le_toInt, code.toInt_lt⟩
  exact ofText_of_reads (.unknownName ht hnone (unprefixed_of_numeral h) (not_named_of_numeral h))

/-! ## Spelling -/

/-- A text with other blanks around it and its letters in another case. -/
def Respelt (s s' : String) : Prop :=
  ∃ before m after, s'.toList = before ++ m ++ after ∧
    (∀ c ∈ before ++ after, Text.isBlank c = true) ∧
    m.map Char.toLower = s.toList.map Char.toLower

theorem Plain.of_respelt {s' : String} (hs : Respelt s s') (ht : Plain s t) : Plain s' t := by
  obtain ⟨before, m, after, hs', hblank, hm⟩ := hs
  rw [plain_iff] at ht ⊢
  calc t
      _ = Text.trim (s.toList.map Char.toLower) := by rw [ht, Text.trim_map_toLower]
      _ = (Text.trim m).map Char.toLower := by rw [← hm, Text.trim_map_toLower]
      _ = (Text.trim s'.toList).map Char.toLower := by rw [hs', Text.trim_surround m hblank]

theorem Plain.unique {t' : List Char} (h : Plain s t) (h' : Plain s t') : t = t' :=
  (plain_iff.mp h).trans (plain_iff.mp h').symm

/-- Of a text that names a dimension, nothing but what it says matters. -/
theorem Reads.of_plain {s' : String} {d : Dimension} (h : Reads s (.ok d)) (ht : Plain s t)
    (ht' : Plain s' t) : Reads s' (.ok d) := by
  cases h with
  | code hplain hnumeral hknown =>
    obtain rfl := hplain.unique ht
    exact .code ht' hnumeral hknown
  | name hplain hnone hrest hnamed =>
    obtain rfl := hplain.unique ht
    exact .name ht' hnone hrest hnamed

theorem ofText_of_respelt {s' : String} {d : Dimension} (hs : Respelt s s') :
    ofText s' = .ok d ↔ ofText s = .ok d := by
  obtain ⟨b, hb⟩ : ∃ t, Plain s t := ⟨_, plain_iff.mpr rfl⟩
  rw [ofText_eq_iff, ofText_eq_iff]
  exact ⟨fun h => h.of_plain (hb.of_respelt hs) hb, fun h => h.of_plain hb (hb.of_respelt hs)⟩

theorem ofText_name (d : Dimension) : ofText d.name = .ok d := by
  cases d <;> rfl

end Text

/-- A text is read as its code or its name says, and reported with what makes it neither. So other
blanks around it and another case of its letters name the same dimension, every dimension is read
back from its full name, and whole numbers with more than 32 bits are reported as names. -/
theorem ofText_reads_exactly (s : String) :
    (∀ r, ofText s = r ↔ Reads s r) ∧
      (∀ s' d, Respelt s s' → (ofText s' = .ok d ↔ ofText s = .ok d)) ∧
      (∀ d, ofText d.name = .ok d) ∧
      ∀ t n, Plain s t → Text.Numeral t n → ¬(-2 ^ 31 ≤ n ∧ n < 2 ^ 31) →
        ofText s = .error (.unknownDimension s) :=
  ⟨fun _ => ofText_eq_iff, fun _ _ hs => ofText_of_respelt hs, ofText_name,
    fun _ _ ht h hn => ofText_of_large ht h hn⟩

/-- A name in other letters between blanks, a name with the namespace twice, and the least number
with too many bits. -/
theorem ofText_reads_exactly_samples :
    ofText " NeTher\t" = .ok nether ∧
      Reads "minecraft:minecraft:end" (.error (.unknownDimension "minecraft:minecraft:end")) ∧
      ofText " 2147483648" = .error (.unknownDimension " 2147483648") := by
  have hname : Respelt "nether" " NeTher\t" :=
    ⟨[' '], "NeTher".toList, ['\t'], by decide, by simp [Text.isBlank], by decide⟩
  have hplain : Plain " 2147483648" "2147483648".toList := plain_iff.mpr (by decide +kernel)
  have hnumber : Text.Numeral "2147483648".toList 2147483648 :=
    Text.numeral_iff.mpr ⟨2147483648, by decide +kernel, by decide⟩
  exact ⟨((ofText_reads_exactly _).2.1 _ _ hname).mpr (by rfl),
    ((ofText_reads_exactly _).1 _).mp (by rfl),
    (ofText_reads_exactly _).2.2.2 _ _ hplain hnumber (by decide)⟩

end Dimension

end Landform
