import Landform.Proofs.Document.Printed
import Landform.Proofs.Number.Text

/-! # Printed numbers are read back

An integer is printed so that it is read as that integer and as the double of the same value, and a
double so that it is read as no integer. -/

namespace Landform.Ron

/-! ## Characters -/

/-- The characters that numbers are made of. -/
def IsNumeric (c : Char) : Prop := c.isDigit = true ∨ c = '.' ∨ c = 'e' ∨ c = '-'

theorem isNumeric_toDigits {n : Nat} : ∀ c ∈ Nat.toDigits 10 n, IsNumeric c :=
  fun _ hc => .inl (Text.isDigit_of_mem_toDigits hc)

theorem isNumeric_toString {e : Int} : ∀ c ∈ (toString e).toList, IsNumeric c := by
  intro c hc
  rcases Text.isDigit_of_mem_toString hc with hc | hc
  · exact .inl hc
  · exact .inr (.inr (.inr hc))

theorem IsNumeric.raw {c : Char} (h : IsNumeric c) : isRawPart c = true := by
  rcases h with h | rfl | rfl | rfl
  · have hword : Text.continuesWord c = true :=
      continuesWord_of_isAlphanum (by simp [Char.isAlphanum, h])
    rw [isRawPart, hword]
    rfl
  · decide
  · decide
  · decide

/-- None of these characters is another one. -/
theorem IsNumeric.ne {c d : Char} (h : IsNumeric c) (hdigit : d.isDigit = false)
    (hd : d ∉ ['.', 'e', '-']) : c ≠ d := by
  rintro rfl
  rcases h with h | rfl | rfl | rfl
  · exact absurd h (ne_true_of_eq_false hdigit)
  · exact hd (by decide)
  · exact hd (by decide)
  · exact hd (by decide)

theorem isLiteral_of_count {cs : List Char} (h : ∀ c ∈ cs, IsNumeric c)
    (hcount : cs.count '.' ≤ 1) : IsLiteral cs := by
  induction cs with
  | nil => exact .nil
  | cons c cs ih =>
    have htail : ∀ d ∈ cs, IsNumeric d := fun d hd => h d (List.mem_cons_of_mem _ hd)
    refine .cons (h c List.mem_cons_self).raw ?_ (ih htail ?_)
    · rintro rfl hhead
      have hmem : '.' ∈ cs := List.mem_of_mem_head? hhead
      have hpos := List.count_pos_iff.mpr hmem
      rw [List.count_cons_self] at hcount
      omega
    · have hle := List.count_le_count_cons (a := '.') (b := c) (l := cs)
      omega

theorem count_point_eq_zero {cs : List Char} (h : ∀ c ∈ cs, c.isDigit = true ∨ c = '-') :
    cs.count '.' = 0 := by
  rw [List.count_eq_zero]
  intro hmem
  rcases h '.' hmem with h | h <;> exact absurd h (by decide)

/-! ## Integers -/

theorem digit?_of_isDigit {c : Char} (h : c.isDigit = true) :
    digit? 10 c = some (c.toNat - '0'.toNat) := by
  have hhex : Text.hexDigits? [c] = some (c.toNat - '0'.toNat) := by
    simp [Text.hexDigits?, h]
  have hlt : c.toNat - '0'.toNat < 10 := by
    simp only [Char.isDigit, Bool.and_eq_true, decide_eq_true_eq, ge_iff_le,
      UInt32.le_iff_toNat_le] at h
    simp at h ⊢
    omega
  rw [digit?, hhex]
  exact if_pos hlt

theorem foldlM_digits {cs : List Char} (h : ∀ c ∈ cs, c.isDigit = true) (n : Nat) :
    cs.foldlM (fun n c => (digit? 10 c).map (10 * n + ·)) n = some (Nat.ofDigitChars 10 cs n) := by
  induction cs generalizing n with
  | nil => simp
  | cons c cs ih =>
    rw [List.foldlM_cons, digit?_of_isDigit (h c List.mem_cons_self), Nat.ofDigitChars_cons]
    exact ih (fun d hd => h d (List.mem_cons_of_mem _ hd)) _

/-- Digits in base ten. -/
theorem digits?_of_isDigit {cs : List Char} (hne : cs ≠ []) (h : ∀ c ∈ cs, c.isDigit = true) :
    digits? 10 cs = some (Nat.ofDigitChars 10 cs 0) := by
  have hunderscore : ∀ c ∈ cs, c ≠ '_' := by
    rintro c hc rfl
    exact absurd (h '_' hc) (by decide)
  have hfilter : cs.filter (· != '_') = cs := by
    refine List.filter_eq_self.mpr fun c hc => bne_iff_ne.mpr (hunderscore c hc)
  unfold digits?
  split
  · exact absurd rfl hne
  · exact absurd rfl (hunderscore '_' List.mem_cons_self)
  · rw [hfilter, foldlM_digits h]

/-- A run of characters that are not all digits is no number. -/
theorem digits?_eq_none {cs : List Char} (h : 'e' ∈ cs) : digits? 10 cs = none := by
  have hfold (cs : List Char) (h : 'e' ∈ cs) (n : Nat) :
      cs.foldlM (fun n c => (digit? 10 c).map (10 * n + ·)) n = none := by
    induction cs generalizing n with
    | nil => cases h
    | cons c cs ih =>
      rw [List.foldlM_cons]
      by_cases hc : c = 'e'
      · subst hc
        rfl
      · have hmem : 'e' ∈ cs := (List.mem_cons.mp h).resolve_left (Ne.symm hc)
        cases digit? 10 c with
        | none => rfl
        | some d => exact ih hmem _
  have hfilter : 'e' ∈ cs.filter (· != '_') := List.mem_filter.mpr ⟨h, by decide⟩
  unfold digits?
  split
  · rfl
  · rfl
  · exact hfold _ hfilter 0

theorem splitBase_eq {cs : List Char} (h : ∀ c ∈ cs, IsNumeric c) : splitBase cs = (10, cs) := by
  unfold splitBase
  split
  · exact absurd rfl ((h 'b' (by simp)).ne (by decide) (by decide))
  · exact absurd rfl ((h 'o' (by simp)).ne (by decide) (by decide))
  · exact absurd rfl ((h 'x' (by simp)).ne (by decide) (by decide))
  · rfl

theorem isHex_of_isDigit {c : Char} (h : c.isDigit = true) :
    ((Text.hexDigits? [c]).isSome || c == '_') = true := by
  simp [Text.hexDigits?, h]

theorem take_eq_takeWhile (p : Char → Bool) (cs : List Char) :
    cs.take (cs.length - (cs.dropWhile p).length) = cs.takeWhile p := by
  have happend : cs.takeWhile p ++ cs.dropWhile p = cs := List.takeWhile_append_dropWhile
  have hlength : cs.length - (cs.dropWhile p).length = (cs.takeWhile p).length := by
    have := congrArg List.length happend
    rw [List.length_append] at this
    omega
  rw [hlength, ← List.prefix_iff_eq_take.mp (List.takeWhile_prefix p)]

/-- The text of an integer. -/
theorem whole?_toString {i : Int} (h : plainRange.check i = some i) :
    whole? (toString i).toList = some (i, none) := by
  have hdigit : ∀ c ∈ Nat.toDigits 10 i.natAbs, c.isDigit = true :=
    fun _ => Text.isDigit_of_mem_toDigits
  have hdrop : (Nat.toDigits 10 i.natAbs).dropWhile
      (fun c => (Text.hexDigits? [c]).isSome || c == '_') = [] :=
    List.dropWhile_eq_nil_iff.mpr fun c hc => isHex_of_isDigit (hdigit c hc)
  have hsign := Text.signed_natAbs i
  rw [whole?, Text.splitSign_toString]
  simp only [splitBase_eq isNumeric_toDigits, hdrop, List.length_nil, Nat.sub_zero,
    List.take_length, digits?_of_isDigit Nat.toDigits_ne_nil hdigit, Nat.ofDigitChars_ten_toDigits]
  change ((plainRange.check (if _ then _ else _)).bind _) = _
  rw [hsign, h]
  rfl

/-! ## Doubles -/

theorem real?_eq {cs : List Char} (h : ∀ c ∈ cs, IsNumeric c) :
    real? cs = (float? cs).map (·, none) := by
  have hkind : (["f32", "f64"].find? fun kind => kind.toList.isSuffixOf cs) = none := by
    rw [List.find?_eq_none]
    intro kind hkind hsuffix
    have hf : ∀ kind ∈ ["f32", "f64"], 'f' ∈ kind.toList := by decide
    have hmem : 'f' ∈ cs := (List.isSuffixOf_iff_suffix.mp hsuffix).subset (hf kind hkind)
    exact absurd rfl ((h 'f' hmem).ne (by decide) (by decide))
  rw [real?, hkind]

theorem dropUnderscores_eq {cs : List Char} (h : ∀ c ∈ cs, IsNumeric c) (allowed : Bool) :
    dropUnderscores allowed cs = some cs := by
  induction cs generalizing allowed with
  | nil => simp [dropUnderscores]
  | cons c cs ih =>
    have hc : c ≠ '_' := (h c List.mem_cons_self).ne (by decide) (by decide)
    have htail (allowed : Bool) := ih (fun d hd => h d (List.mem_cons_of_mem _ hd)) allowed
    unfold dropUnderscores
    split
    · rename_i heq
      cases heq
    · rename_i heq
      exact absurd (List.cons.inj heq).1 hc
    · rename_i heq
      obtain ⟨rfl, rfl⟩ := List.cons.inj heq
      rw [htail]
      rfl

theorem float?_eq {cs : List Char} (h : ∀ c ∈ cs, IsNumeric c) :
    float? cs = (Decimal.read? cs).map .ofFloat := by
  have hne (w : String) (c : Char) (hw : c ∈ w.toList) (hc : ¬ IsNumeric c) :
      String.ofList cs ≠ w := by
    rintro rfl
    rw [String.toList_ofList] at hw
    exact hc (h c hw)
  have hn : ¬ IsNumeric 'n' := by rintro (h | h | h | h) <;> exact absurd h (by decide)
  have hN : ¬ IsNumeric 'N' := by rintro (h | h | h | h) <;> exact absurd h (by decide)
  unfold float?
  split
  · rename_i heq
    exact absurd heq (hne _ 'n' (by decide) hn)
  · rename_i heq
    exact absurd heq (hne _ 'n' (by decide) hn)
  · rename_i heq
    exact absurd heq (hne _ 'n' (by decide) hn)
  · rename_i heq
    exact absurd heq (hne _ 'N' (by decide) hN)
  · rename_i heq
    exact absurd heq (hne _ 'N' (by decide) hN)
  · rename_i heq
    exact absurd heq (hne _ 'N' (by decide) hN)
  · rw [dropUnderscores_eq h]
    rfl

theorem toFloat_eq_ofNat (n : Nat) : (⟨n, 0⟩ : Digits).toFloat = Float.ofNat n := rfl

theorem magnitude?_toDigits (n : Nat) :
    Decimal.magnitude? (Nat.toDigits 10 n) = some ⟨n, 0⟩ := by
  have hdigit : ∀ c ∈ Nat.toDigits 10 n, c.isDigit = true := fun _ => Text.isDigit_of_mem_toDigits
  have htake : (Nat.toDigits 10 n).takeWhile Char.isDigit = Nat.toDigits 10 n :=
    List.takeWhile_eq_self_iff.mpr hdigit
  have hdrop : (Nat.toDigits 10 n).dropWhile Char.isDigit = [] :=
    List.dropWhile_eq_nil_iff.mpr hdigit
  have hempty : (Nat.toDigits 10 n).isEmpty = false :=
    List.isEmpty_eq_false_iff.mpr Nat.toDigits_ne_nil
  have hrun := Decimal.run_toDigits n
  simp [Decimal.magnitude?, htake, hdrop, hempty, hrun]

/-- An integer is read as the double of the same value. -/
theorem read?_toString (i : Int) :
    Decimal.read? (toString i).toList = some (Float.ofInt i) := by
  rw [Decimal.read?, Text.splitSign_toString]
  change (Decimal.magnitude? _).map _ = _
  rw [magnitude?_toDigits, Option.map_some, toFloat_eq_ofNat]
  cases i with
  | ofNat n =>
    have hsign : decide (Int.ofNat n < 0) = false := by simp
    rw [hsign]
    rfl
  | negSucc n =>
    have hsign : decide (Int.negSucc n < 0) = true := by simp
    rw [hsign]
    rfl

theorem apart_of_signed {minus : Bool} {cs : List Char} (hne : cs ≠ [])
    (h : ∀ c ∈ cs.head?, c.isDigit = true) :
    ∃ c cs', Text.signText minus ++ cs = c :: cs' ∧ (c.isDigit = true ∨ c = '-') := by
  cases minus with
  | true => exact ⟨'-', cs, rfl, .inr rfl⟩
  | false =>
    obtain ⟨c, cs, rfl⟩ := List.exists_cons_of_ne_nil hne
    exact ⟨c, cs, rfl, .inl (h c rfl)⟩

/-- An integer is printed so that it is read as itself. -/
theorem isNumber_integer {i : Int} (h : plainRange.check i = some i) :
    IsNumber (toString i).toList ⟨some i, some (.ofFloat (Float.ofInt i)), none⟩ := by
  refine ⟨isLiteral_of_count isNumeric_toString ?_, ?_, .inr ?_⟩
  · rw [count_point_eq_zero fun _ => Text.isDigit_of_mem_toString]
    exact Nat.zero_le 1
  · rw [numeral?, whole?_toString h, real?_eq isNumeric_toString, float?_eq isNumeric_toString,
      read?_toString]
    rfl
  · rw [Text.toList_toString]
    exact apart_of_signed Nat.toDigits_ne_nil (Text.isDigit_head_toDigits _)

/-! ## Decimals -/

section Decimals

variable {s : Spelling} {minus : Bool}

theorem isNumeric_spelling (minus : Bool) (h : s.Shown) :
    ∀ c ∈ Text.signText minus ++ s.text, IsNumeric c := by
  intro c hc
  simp only [Spelling.text, List.mem_append] at hc
  rcases hc with hc | hc | hc | hc
  · exact .inr (.inr (.inr (Text.eq_of_mem_signText hc)))
  · exact .inl (h.isDigit_whole c hc)
  · unfold Spelling.partText at hc
    split at hc
    · cases hc
    · rcases List.mem_cons.mp hc with rfl | hc
      · exact .inr (.inl rfl)
      · exact .inl (h.isDigit_part c hc)
  · unfold Spelling.exponentText at hc
    split at hc
    · cases hc
    · rcases List.mem_cons.mp hc with rfl | hc
      · exact .inr (.inr (.inl rfl))
      · exact isNumeric_toString c hc

theorem count_point_le (h : s.Shown) : (Text.signText minus ++ s.text).count '.' ≤ 1 := by
  have hsign : (Text.signText minus).count '.' = 0 := by cases minus <;> decide
  have hwhole : s.whole.count '.' = 0 := count_point_eq_zero fun c hc => .inl (h.isDigit_whole c hc)
  have hpart : s.partText.count '.' ≤ 1 := by
    unfold Spelling.partText
    split
    · exact Nat.zero_le 1
    · rw [List.count_cons_self, count_point_eq_zero fun c hc => .inl (h.isDigit_part c hc)]
  have hexponent : s.exponentText.count '.' = 0 := by
    unfold Spelling.exponentText
    split
    · rfl
    · rw [List.count_cons_of_ne (by decide),
        count_point_eq_zero fun _ => Text.isDigit_of_mem_toString]
  simp only [Spelling.text, List.count_append]
  omega

/-- A decimal with a point or an exponent is no integer. -/
theorem whole?_spelling (h : s.Shown) : whole? (Text.signText minus ++ s.text) = none := by
  have hbase : splitBase s.text = (10, s.text) :=
    splitBase_eq fun c hc => isNumeric_spelling false h c hc
  have hwhole : ∀ c ∈ s.whole, ((Text.hexDigits? [c]).isSome || c == '_') = true :=
    fun c hc => isHex_of_isDigit (h.isDigit_whole c hc)
  rw [whole?, Text.splitSign_append minus h.isDigit_head]
  simp only [hbase, take_eq_takeWhile]
  cases hpart : s.part.isEmpty with
  | false =>
    -- the digits end at the point, and what is left is no kind of integer
    have htext : s.text = s.whole ++ '.' :: (s.part ++ s.exponentText) := by
      rw [Spelling.text, Spelling.partText, hpart]
      rfl
    have hpoint : ∀ c ∈ ('.' :: (s.part ++ s.exponentText)).head?,
        ((Text.hexDigits? [c]).isSome || c == '_') = false := by
      intro c hc
      obtain rfl := Option.mem_some_iff.mp hc
      decide
    obtain ⟨htake, hdrop⟩ := Text.takeWhile_append_of_head hwhole hpoint
    have hkind : (wholeKinds.find? (·.1.toList == '.' :: (s.part ++ s.exponentText))) = none := by
      simp [wholeKinds]
    rw [htext, htake, hdrop, digits?_of_isDigit h.whole_ne_nil h.isDigit_whole]
    simp [hkind]
  | true =>
    -- the `e` of the exponent is taken for a digit, which it is not in base ten
    obtain ⟨e, he⟩ := Option.isSome_iff_exists.mp
      (h.marked.resolve_left fun hne => hne (List.isEmpty_iff.mp hpart))
    have htext : s.text = s.whole ++ 'e' :: (toString e).toList := by
      rw [Spelling.text, Spelling.partText, hpart, Spelling.exponentText, he]
      rfl
    have hmem : 'e' ∈ s.text.takeWhile fun c => (Text.hexDigits? [c]).isSome || c == '_' := by
      rw [htext, List.takeWhile_append_of_pos hwhole, List.takeWhile_cons_of_pos (by decide)]
      simp
    rw [digits?_eq_none hmem]
    rfl

/-- A decimal is read as the double that it spells, and as nothing else. -/
theorem isNumber_spelling (h : s.Shown) :
    IsNumber (Text.signText minus ++ s.text)
      ⟨none, some (.ofFloat (if minus then -s.digits.toFloat else s.digits.toFloat)), none⟩ := by
  have hnumeric := isNumeric_spelling minus h
  have hne : s.text ≠ [] := List.append_ne_nil_of_left_ne_nil h.whole_ne_nil _
  refine ⟨isLiteral_of_count hnumeric (count_point_le h), ?_,
    .inr (apart_of_signed hne h.isDigit_head)⟩
  rw [numeral?, whole?_spelling h, real?_eq hnumeric, float?_eq hnumeric, h.read?_text]
  rfl

end Decimals

theorem isNumber_infinite (minus : Bool) :
    IsNumber (Text.signText minus ++ "inf".toList)
      ⟨none, some (.ofFloat (infinite minus)), none⟩ := by
  have hplain : IsPlain "inf".toList := by decide
  cases minus with
  | true =>
    refine ⟨.cons (by decide) (by decide) hplain.isLiteral, ?_, .inr ⟨'-', _, rfl, .inr rfl⟩⟩
    rfl
  | false =>
    refine ⟨hplain.isLiteral, ?_, .inl hplain⟩
    rfl

/-- The text of a number is read as that number, and as no integer. -/
theorem isNumber_quantity {q : Quantity} (h : q.IsNumber) :
    IsNumber q.text.toList ⟨none, some q, none⟩ := by
  rcases h.text with ⟨minus, htext, rfl⟩ | ⟨minus, s, hs, htext, hq⟩
  · rw [htext]
    exact isNumber_infinite minus
  · rw [htext, hq]
    exact isNumber_spelling hs

end Landform.Ron
