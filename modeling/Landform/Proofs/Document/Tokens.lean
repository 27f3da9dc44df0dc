import Landform.Document.Ron
import Landform.Proofs.Number.Spelling

/-! # Words and numbers are read back

A word or a number is read up to where it ends, whatever comes after that. What can follow one in a
printed document is no part of it, nor a blank. -/

namespace Landform.Ron

/-! ## What follows a part -/

/-- Nothing but the end of a part stands in front: a comma, a parenthesis or the end of the text. -/
def Ends (cs : List Char) : Prop := ∀ c ∈ cs.head?, c = ',' ∨ c = ')'

/-- Neither a blank nor a comment stands in front. -/
def Clear (cs : List Char) : Prop := ∀ c ∈ cs.head?, isBlank c = false ∧ c ≠ '/'

theorem Ends.nil : Ends [] := nofun

theorem Ends.comma (cs : List Char) : Ends (',' :: cs) := by
  intro c hc
  exact .inl (Option.mem_some_iff.mp hc).symm

theorem Ends.parenthesis (cs : List Char) : Ends (')' :: cs) := by
  intro c hc
  exact .inr (Option.mem_some_iff.mp hc).symm

theorem Ends.clear {cs : List Char} (h : Ends cs) : Clear cs := by
  intro c hc
  rcases h c hc with rfl | rfl <;> decide

theorem Clear.cons {c : Char} (hblank : isBlank c = false) (hslash : c ≠ '/') (cs : List Char) :
    Clear (c :: cs) := by
  intro c' hc'
  obtain rfl := Option.mem_some_iff.mp hc'
  exact ⟨hblank, hslash⟩

theorem blanks_append {bs cs : List Char} (hbs : ∀ c ∈ bs, isBlank c = true) (h : Clear cs) :
    blanks (bs ++ cs) = some cs := by
  have hdrop : (bs ++ cs).dropWhile isBlank = cs := by
    rw [List.dropWhile_append_of_pos hbs]
    cases cs with
    | nil => rfl
    | cons c cs => exact List.dropWhile_cons_of_neg (ne_true_of_eq_false (h c rfl).1)
  unfold blanks skip
  rw [hdrop]
  cases cs with
  | nil => rfl
  | cons c cs =>
    have hslash := (h c rfl).2
    split
    · rename_i heq
      exact absurd (List.cons.inj heq).1 hslash
    · rename_i heq
      exact absurd (List.cons.inj heq).1 hslash
    · rename_i heq
      exact absurd (List.cons.inj heq).1 hslash
    · rfl

theorem Clear.blanks {cs : List Char} (h : Clear cs) : blanks cs = some cs :=
  @blanks_append [] cs nofun h

/-! ## Words -/

/-- A letter or an underscore. -/
def isFirst (c : Char) : Bool := c == '_' || c.isAlpha

/-- A word of ASCII letters, digits and underscores that does not begin with a digit. -/
def IsPlain (w : List Char) : Prop :=
  w.head?.any isFirst = true ∧ ∀ c ∈ w, (c.isAlphanum || c == '_') = true

instance : DecidablePred IsPlain := fun w =>
  decidable_of_iff
    (w.head?.any isFirst = true ∧ w.all (fun c => c.isAlphanum || c == '_') = true)
    (and_congr_right' List.all_eq_true)

/-- What a word is followed by. -/
def EndsWord (cs : List Char) : Prop := ∀ c ∈ cs.head?, c = ',' ∨ c = ')' ∨ c = ':' ∨ c = '('

theorem Ends.endsWord {cs : List Char} (h : Ends cs) : EndsWord cs := by
  intro c hc
  rcases h c hc with h | h
  · exact .inl h
  · exact .inr (.inl h)

theorem EndsWord.colon (cs : List Char) : EndsWord (':' :: cs) := by
  intro c hc
  exact .inr (.inr (.inl (Option.mem_some_iff.mp hc).symm))

theorem EndsWord.opening (cs : List Char) : EndsWord ('(' :: cs) := by
  intro c hc
  exact .inr (.inr (.inr (Option.mem_some_iff.mp hc).symm))

theorem EndsWord.isRawPart {cs : List Char} (h : EndsWord cs) :
    ∀ c ∈ cs.head?, isRawPart c = false := by
  intro c hc
  rcases h c hc with rfl | rfl | rfl | rfl <;> decide

theorem toNat_lt_of_isAlphanum {c : Char} (h : c.isAlphanum = true) : c.toNat < 0x80 := by
  simp only [Char.isAlphanum, Char.isAlpha, Char.isUpper, Char.isLower, Char.isDigit,
    Bool.or_eq_true, decide_eq_true_eq, ge_iff_le, UInt32.le_iff_toNat_le, Bool.and_eq_true] at h
  simp at h
  omega

theorem continuesWord_of_isAlphanum {c : Char} (h : (c.isAlphanum || c == '_') = true) :
    Text.continuesWord c = true := by
  have hc : c.toNat < 0x80 := by
    rcases (Bool.or_eq_true _ _).mp h with h | h
    · exact toNat_lt_of_isAlphanum h
    · obtain rfl := eq_of_beq h
      decide
  unfold Text.continuesWord
  rw [if_pos hc]
  exact h

theorem startsWord_of_isFirst {c : Char} (h : isFirst c = true) :
    (c == '_' || Text.startsWord c) = true := by
  unfold isFirst at h
  by_cases hc : c = '_'
  · subst hc
    rfl
  · have halpha : c.isAlpha = true := by simpa [hc] using h
    have hlt := toNat_lt_of_isAlphanum (c := c) (by simp [Char.isAlphanum, halpha])
    simp [Text.startsWord, hlt, halpha]

/-- No quote follows in a word or directly after it. -/
theorem no_quote {w rest : List Char} (hw : ∀ c ∈ w, (c.isAlphanum || c == '_') = true)
    (hrest : EndsWord rest) : ∀ c ∈ (w ++ rest).head?, c ≠ '#' ∧ c ≠ '"' ∧ c ≠ '\'' := by
  intro c hc
  cases w with
  | nil => rcases hrest c hc with rfl | rfl | rfl | rfl <;> decide
  | cons d w =>
    obtain rfl : d = c := Option.mem_some_iff.mp hc
    have hd := hw d List.mem_cons_self
    refine ⟨?_, ?_, ?_⟩ <;> rintro rfl <;> exact absurd hd (by decide)

theorem no_raw_quote {w rest cs : List Char} {c : Char}
    (hw : ∀ c ∈ w, (c.isAlphanum || c == '_') = true) (hrest : EndsWord rest)
    (h : w ++ rest = 'r' :: c :: cs) : c ≠ '#' ∧ c ≠ '"' := by
  cases w with
  | nil =>
    have hr := hrest 'r' (by rw [show rest = _ from h]; rfl)
    exact absurd hr (by decide)
  | cons d w =>
    have htail : w ++ rest = c :: cs := (List.cons.inj h).2
    have hquote := no_quote (fun d hd => hw d (List.mem_cons_of_mem _ hd)) hrest c
      (by rw [htail]; rfl)
    exact ⟨hquote.1, hquote.2.1⟩

/-- A word is read up to where it ends. -/
theorem word?_of_isPlain {w rest : List Char} (hw : IsPlain w) (hrest : EndsWord rest) :
    word? (w ++ rest) = some (String.ofList w, rest) := by
  obtain ⟨hfirst, hall⟩ := hw
  cases w with
  | nil => cases hfirst
  | cons c w =>
    have hw : ∀ d ∈ w, (d.isAlphanum || d == '_') = true :=
      fun d hd => hall d (List.mem_cons_of_mem c hd)
    have hquote := no_quote hw hrest
    have hends : ∀ d ∈ rest.head?, Text.continuesWord d = false := by
      intro d hd
      rcases hrest d hd with rfl | rfl | rfl | rfl <;> decide
    obtain ⟨htake, hdrop⟩ :=
      Text.takeWhile_append_of_head (fun d hd => continuesWord_of_isAlphanum (hw d hd)) hends
    rw [List.cons_append]
    unfold word?
    -- the first rows are the openings of raw words and of quoted texts, which need a quote
    split
    · rename_i heq
      exact absurd rfl (hquote '#' (by rw [(List.cons.inj heq).2]; rfl)).1
    · rename_i heq
      exact absurd rfl (hquote '"' (by rw [(List.cons.inj heq).2]; rfl)).2.1
    · rename_i heq
      exact absurd rfl (hquote '"' (by rw [(List.cons.inj heq).2]; rfl)).2.1
    · rename_i heq
      exact absurd rfl (hquote '\'' (by rw [(List.cons.inj heq).2]; rfl)).2.2
    · rename_i heq
      exact absurd rfl (no_raw_quote hw hrest (List.cons.inj heq).2).2
    · rename_i heq
      exact absurd rfl (no_raw_quote hw hrest (List.cons.inj heq).2).1
    · rename_i heq
      obtain ⟨rfl, rfl⟩ := List.cons.inj heq
      rw [if_pos (startsWord_of_isFirst hfirst), htake, hdrop]
    · rename_i heq
      cases heq

theorem name?_of_isPlain {w rest : List Char} (hw : IsPlain w) (hrest : EndsWord rest) :
    name? (w ++ rest) = some (String.ofList w, rest) := by
  have hends : rest.head?.any isRawPart = false := by
    have := hrest.isRawPart
    cases rest with
    | nil => rfl
    | cons c rest => exact this c rfl
  rw [name?, word?_of_isPlain hw hrest]
  change (if _ then _ else _) = _
  rw [hends]
  rfl

/-- Nothing else than a letter or an underscore begins a name. -/
theorem name?_eq_none {c : Char} {cs : List Char} (hc : (c == '_' || Text.startsWord c) = false) :
    name? (c :: cs) = none := by
  have hword : word? (c :: cs) = none := by
    unfold word?
    split
    · rename_i heq
      obtain ⟨rfl, -⟩ := List.cons.inj heq
      exact absurd hc (by decide)
    · rfl
    · rfl
    · rfl
    · rfl
    · rfl
    · rename_i heq
      obtain ⟨rfl, rfl⟩ := List.cons.inj heq
      rw [hc]
      rfl
    · rfl
  rw [name?, hword]
  rfl

theorem startsWord_of_isDigit {c : Char} (h : c.isDigit = true) :
    (c == '_' || Text.startsWord c) = false := by
  have hlt : c.toNat < 0x80 := toNat_lt_of_isAlphanum (by simp [Char.isAlphanum, h])
  have hne : c ≠ '_' := by
    rintro rfl
    exact absurd h (by decide)
  have halpha : c.isAlpha = false := by
    simp only [Char.isDigit, Bool.and_eq_true, decide_eq_true_eq, ge_iff_le,
      UInt32.le_iff_toNat_le] at h
    simp [Char.isAlpha, Char.isUpper, Char.isLower, UInt32.le_iff_toNat_le] at h ⊢
    omega
  simp [Text.startsWord, hlt, halpha, hne]

/-! ## Numbers -/

/-- The characters of a number, which is not taken for a range. -/
inductive IsLiteral : List Char → Prop
  | nil : IsLiteral []
  | cons {c : Char} {cs : List Char} (hc : isRawPart c = true)
      (hpoints : c = '.' → cs.head? ≠ some '.') (h : IsLiteral cs) : IsLiteral (c :: cs)

/-- A literal is read up to where it ends. -/
theorem literal_append {w rest : List Char} (hw : IsLiteral w)
    (hrest : ∀ c ∈ rest.head?, isRawPart c = false) : literal (w ++ rest) = w := by
  induction hw with
  | nil =>
    cases rest with
    | nil => rfl
    | cons c rest =>
      have hc : isRawPart c = false := hrest c rfl
      rw [List.nil_append]
      unfold literal
      split
      · rfl
      · rename_i heq
        obtain ⟨rfl, rfl⟩ := List.cons.inj heq
        rw [hc]
        rfl
      · rfl
  | @cons c w hc hpoints _ ih =>
    rw [List.cons_append]
    unfold literal
    split
    · -- two points in a row would be a range
      rename_i cs heq
      obtain ⟨rfl, htail⟩ := List.cons.inj heq
      exfalso
      cases w with
      | nil =>
        have := hrest '.' (by rw [show rest = _ from htail]; rfl)
        exact absurd this (by decide)
      | cons d w =>
        obtain ⟨rfl, -⟩ := List.cons.inj htail
        exact hpoints rfl rfl
    · rename_i heq
      obtain ⟨rfl, rfl⟩ := List.cons.inj heq
      rw [if_pos hc, ih]
    · rename_i heq
      cases heq

theorem number?_append {w rest : List Char} (hw : IsLiteral w)
    (hrest : ∀ c ∈ rest.head?, isRawPart c = false) :
    number? (w ++ rest) = (numeral? w).map (·, rest) := by
  rw [number?, literal_append hw hrest, List.drop_left]

theorem IsPlain.isLiteral {w : List Char} (hw : IsPlain w) : IsLiteral w := by
  obtain ⟨-, hall⟩ := hw
  induction w with
  | nil => exact .nil
  | cons c w ih =>
    have hc := hall c List.mem_cons_self
    refine .cons ?_ ?_ (ih fun d hd => hall d (List.mem_cons_of_mem c hd))
    · rw [isRawPart, continuesWord_of_isAlphanum hc]
      rfl
    · rintro rfl
      exact absurd hc (by decide)

theorem afterStart?_eq_none {cs : List Char} (h : cs.head? ≠ some '.') : afterStart? cs = none := by
  unfold afterStart?
  split
  · exact absurd rfl h
  · exact absurd rfl h
  · rfl

/-- A number is read where nothing continues it. -/
theorem numeric?_of_literal {w rest : List Char} {n : Numeral} (hw : IsLiteral w)
    (hn : numeral? w = some n) (hrest : Ends rest) :
    numeric? (w ++ rest) = some (.number n, rest) := by
  have hbound : bound? (w ++ rest) = some (.number n, rest) := by
    rw [bound?, number?_append hw hrest.endsWord.isRawPart, hn]
    rfl
  have hrange : afterStart? rest = none := by
    apply afterStart?_eq_none
    intro hpoint
    exact absurd (hrest '.' hpoint) (by decide)
  rw [numeric?, hbound]
  change some ((afterStart? rest).getD _) = _
  rw [hrange]
  rfl

theorem numeric?_eq_none {cs : List Char} (hn : number? cs = none) (hbyte : byte? cs = none)
    (hpoint : cs.head? ≠ some '.') : numeric? cs = none := by
  rw [numeric?, bound?, hn, hbyte]
  exact afterStart?_eq_none hpoint

theorem byte?_eq_none {cs : List Char} (h : ∀ rest, cs ≠ 'b' :: '\'' :: rest) :
    byte? cs = none := by
  unfold byte?
  split
  · rfl
  · exact absurd rfl (h _)
  · exact absurd rfl (h _)
  · rfl

/-- A word that is no number begins no range either. -/
theorem numeric?_of_isPlain {w rest : List Char} (hw : IsPlain w) (hn : numeral? w = none)
    (hrest : EndsWord rest) : numeric? (w ++ rest) = none := by
  have hnumber : number? (w ++ rest) = none := by
    rw [number?_append hw.isLiteral hrest.isRawPart, hn]
    rfl
  obtain ⟨hfirst, hall⟩ := hw
  cases w with
  | nil => cases hfirst
  | cons c w =>
    have hquote := no_quote (fun d hd => hall d (List.mem_cons_of_mem c hd)) hrest
    apply numeric?_eq_none hnumber
    · apply byte?_eq_none
      intro cs heq
      have htail : w ++ rest = '\'' :: cs := (List.cons.inj heq).2
      exact absurd rfl (hquote '\'' (by rw [htail]; rfl)).2.2
    · intro hpoint
      obtain rfl : c = '.' := Option.some.inj hpoint
      cases hfirst

/-- Neither a number nor a range begins with a character that is no part of one. -/
theorem numeric?_cons_eq_none {c : Char} {cs : List Char} (hc : isRawPart c = false) :
    numeric? (c :: cs) = none := by
  have hliteral : literal (c :: cs) = [] :=
    literal_append .nil fun d hd => (Option.mem_some_iff.mp hd) ▸ hc
  apply numeric?_eq_none
  · rw [number?, hliteral]
    rfl
  · apply byte?_eq_none
    intro rest heq
    obtain ⟨rfl, -⟩ := List.cons.inj heq
    exact absurd hc (by decide)
  · intro hpoint
    obtain rfl : c = '.' := Option.some.inj hpoint
    exact absurd hc (by decide)

end Landform.Ron
