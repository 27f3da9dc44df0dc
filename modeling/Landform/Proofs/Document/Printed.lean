import Landform.Proofs.Document.Parts

/-! # Printed documents are read back

A document that has been printed is read as the same document. Every part of it is read up to the
comma, the parenthesis or the end of the text that follows it, whatever comes after that. -/

namespace Landform.Ron

variable {options : List (List String)} {fuel : Nat} {path : List String}

/-! ## Printed documents -/

theorem printItems_eq (column : Nat) (ds : List Document) :
    printItems column ds = ds.map (printAt column) := by
  induction ds with
  | nil => rfl
  | cons d ds ih => rw [printItems, ih, List.map_cons]

theorem printFields_eq (column : Nat) (fs : List (String × Document)) :
    printFields column fs = fs.map fun f => f.1 ++ ": " ++ printAt column f.2 := by
  induction fs with
  | nil => rfl
  | cons f fs ih => rw [printFields, ih, List.map_cons]

theorem block_append (column : Nat) (opening closing : String) {parts : List String}
    (hparts : parts ≠ []) (rest : List Char) :
    (block column opening closing parts).toList ++ rest =
      opening.toList ++ (lines (column + indentation) (parts.map String.toList) ++
        (newline column).toList ++ (closing.toList ++ rest)) := by
  have hempty : parts.isEmpty = false := List.isEmpty_eq_false_iff.mpr hparts
  simp [block, hempty, lines, String.toList_join, List.flatMap_map]

/-- The first character of a document. -/
def Begins (c : Char) : Prop := isBlank c = false ∧ c ∉ [')', ']', '/', '#']

instance : DecidablePred Begins := fun _ => inferInstanceAs (Decidable (_ ∧ _))

theorem Begins.ne {c d : Char} (h : Begins c) (hd : ¬ Begins d) : c ≠ d := fun heq => hd (heq ▸ h)

theorem Begins.clear {c : Char} (h : Begins c) (cs : List Char) : Clear (c :: cs) :=
  .cons h.1 (h.ne (by decide)) cs

theorem begins_of_isAlphanum {c : Char} (h : (c.isAlphanum || c == '_') = true) : Begins c := by
  have hblank : isBlank c = false := by
    by_cases hc : c = '_'
    · subst hc
      decide
    · have halphanum : c.isAlphanum = true := by simpa [hc] using h
      simp only [Char.isAlphanum, Char.isAlpha, Char.isUpper, Char.isLower, Char.isDigit,
        Bool.or_eq_true, decide_eq_true_eq, ge_iff_le, UInt32.le_iff_toNat_le, Bool.and_eq_true]
        at halphanum
      simp [isBlank] at halphanum ⊢
      omega
  refine ⟨hblank, fun hc => ?_⟩
  simp only [List.mem_cons, List.not_mem_nil, or_false] at hc
  rcases hc with rfl | rfl | rfl | rfl <;> exact absurd h (by decide)

/-- A text that is read as a document wherever it ends, and that no field begins with. -/
structure Printed (options : List (List String)) (fuel : Nat) (path : List String) (w : List Char)
    (v : Nested) : Prop where
  read : ∀ rest, Ends rest → value .none options fuel path (w ++ rest) = some (v, rest)
  head : ∃ c cs, w = c :: cs ∧ Begins c
  notField : ∀ rest, Ends rest → startsField (w ++ rest) = false

/-- The text of a number: no name, unless it is a word as a whole. -/
structure IsNumber (w : List Char) (m : Numeral) : Prop where
  literal : IsLiteral w
  read : numeral? w = some m
  apart : IsPlain w ∨ ∃ c cs, w = c :: cs ∧ (c.isDigit = true ∨ c = '-')

/-- A word that stands for itself. -/
structure IsName (w : String) : Prop where
  plain : IsPlain w.toList
  noNumber : numeral? w.toList = none
  free : w ∉ ["true", "false", "None", "Some"]

/-- Documents that are read as they are printed, with at most so many levels of nesting. -/
inductive Writable : Nat → Document → Prop
  | absent (n : Nat) : Writable n .absent
  | bool (n : Nat) (b : Bool) : Writable n (.bool b)
  | number (n : Nat) {m : Numeral} (h : IsNumber (printNumeral m).toList m) : Writable n (.number m)
  | text (n : Nat) (s : String) : Writable n (.text s)
  | word (n : Nat) {w : String} (h : IsName w) : Writable n (.word w)
  | present {n : Nat} {d : Document} (h : Writable n d) : Writable (n + 1) (.present d)
  | list {n : Nat} {ds : List Document} (h : ∀ d ∈ ds, Writable n d) : Writable (n + 2) (.list ds)
  | record {n : Nat} {fs : List (String × Document)} (hfields : fs ≠ [])
      (hnames : ∀ f ∈ fs, IsPlain f.1.toList) (h : ∀ f ∈ fs, Writable n f.2) :
      Writable (n + 2) (.record none fs)

theorem Printed.clear {w : List Char} {v : Nested} (h : Printed options fuel path w v)
    (rest : List Char) : Clear (w ++ rest) := by
  obtain ⟨c, cs, rfl, hbegins⟩ := h.head
  exact hbegins.clear (cs ++ rest)

theorem startsField_of_isPlain {w rest : List Char} (hw : IsPlain w) (hrest : EndsWord rest) :
    startsField (w ++ rest) = (rest.head? == some ':') := by
  have hclear : Clear rest := by
    intro c hc
    rcases hrest c hc with rfl | rfl | rfl | rfl <;> decide
  rw [startsField, name?_of_isPlain hw hrest]
  change ((blanks rest).bind _ == _) = _
  rw [hclear.blanks]
  rfl

theorem startsField_cons {c : Char} {cs : List Char}
    (hc : (c == '_' || Text.startsWord c) = false) : startsField (c :: cs) = false := by
  rw [startsField, name?_eq_none hc]

theorem Ends.head?_ne {rest : List Char} (h : Ends rest) : (rest.head? == some ':') = false := by
  apply beq_false_of_ne
  intro hcolon
  exact absurd (h ':' hcolon) (by decide)

theorem IsPlain.head {w : List Char} (hw : IsPlain w) : ∃ c cs, w = c :: cs ∧ Begins c := by
  obtain ⟨hfirst, hall⟩ := hw
  cases w with
  | nil => cases hfirst
  | cons c cs => exact ⟨c, cs, rfl, begins_of_isAlphanum (hall c List.mem_cons_self)⟩

theorem IsNumber.printed {w : List Char} {m : Numeral} (h : IsNumber w m) :
    Printed options (fuel + 1) path w ⟨.number m, 0⟩ := by
  have hhead : ∃ c cs, w = c :: cs ∧ Begins c := by
    rcases h.apart with hw | ⟨c, cs, rfl, hc | rfl⟩
    · exact hw.head
    · exact ⟨c, cs, rfl, begins_of_isAlphanum (by simp [Char.isAlphanum, hc])⟩
    · exact ⟨_, cs, rfl, by decide⟩
  obtain ⟨c, cs, hw, hbegins⟩ := hhead
  refine ⟨fun _ hrest => ?_, ⟨c, cs, hw, hbegins⟩, fun _ hrest => ?_⟩
  · apply value_of_numeric (numeric?_of_literal h.literal h.read hrest)
    have hliteral := h.literal
    subst hw
    cases hliteral with
    | cons hc => exact hc
  · rcases h.apart with hw | ⟨c, cs, rfl, hc | rfl⟩
    · exact (startsField_of_isPlain hw hrest.endsWord).trans hrest.head?_ne
    · exact startsField_cons (startsWord_of_isDigit hc)
    · exact startsField_cons (by decide)

theorem printed_text (s : String) :
    Printed options (fuel + 1) path (Text.quote .both s).toList ⟨.text s, 0⟩ where
  read rest _ := value_text s rest
  head := by
    have h := quote_append s []
    rw [List.append_nil] at h
    exact ⟨_, _, h, by decide⟩
  notField _ _ := by
    rw [quote_append]
    exact startsField_cons (by decide)

/-- Words of which each is a value of its own. -/
theorem printed_word {w : List Char} {v : Nested} (hw : IsPlain w)
    (hread : ∀ rest, Ends rest → value .none options fuel path (w ++ rest) = some (v, rest)) :
    Printed options fuel path w v where
  read := hread
  head := hw.head
  notField _ hrest := (startsField_of_isPlain hw hrest.endsWord).trans hrest.head?_ne

theorem IsName.printed {w : String} (h : IsName w) :
    Printed options (fuel + 1) path w.toList ⟨.word w, 0⟩ := by
  refine printed_word h.plain fun rest hrest => ?_
  rw [value_word h.plain h.noNumber hrest.endsWord, String.ofList_toList]
  have hfree := h.free
  split
  · simp at hfree
  · simp at hfree
  · simp at hfree
  · simp at hfree
  · exact named?_word hrest

theorem printed_absent : Printed options (fuel + 1) path "None".toList ⟨.absent, 0⟩ := by
  refine printed_word (by decide) fun rest hrest => ?_
  rw [value_word (by decide) (by decide) hrest.endsWord]
  rfl

theorem printed_bool (b : Bool) :
    Printed options (fuel + 1) path (if b then "true" else "false").toList ⟨.bool b, 0⟩ := by
  cases b with
  | true =>
    refine printed_word (by decide) fun rest hrest => ?_
    exact (value_word (by decide) (by decide) hrest.endsWord).trans rfl
  | false =>
    refine printed_word (by decide) fun rest hrest => ?_
    exact (value_word (by decide) (by decide) hrest.endsWord).trans rfl

/-- The one value in the parentheses of `Some` is not taken for a field. -/
theorem Printed.present {w : List Char} {v : Nested}
    (h : Printed options fuel (path ++ [""]) w v) :
    Printed options (fuel + 1) path ("Some".toList ++ '(' :: (w ++ [')']))
      ⟨.present v.document, 1 + v.levels⟩ := by
  have hsome : IsPlain "Some".toList := by decide
  refine ⟨fun rest hrest => ?_, ⟨_, _, rfl, by decide⟩, fun _ hrest => ?_⟩
  · obtain ⟨c, cs, rfl, hbegins⟩ := h.head
    have hclear : Clear (c :: (cs ++ ')' :: rest)) := hbegins.clear _
    have hclose : c ≠ ')' := hbegins.ne (by decide)
    have hread : partOf options fuel path "" (c :: (cs ++ ')' :: rest)) =
        some (v, ')' :: rest) := by
      rw [partOf, hclear.blanks]
      exact h.read (')' :: rest) (.parenthesis rest)
    have hcontents : contents? (partOf options fuel path) (c :: (cs ++ ')' :: rest)) =
        some (.values [v], rest) := by
      -- a colon after a name would make it a field
      have hfield : startsField (c :: (cs ++ ')' :: rest)) = false :=
        h.notField (')' :: rest) (.parenthesis rest)
      rw [contents?, hclear.blanks]
      change (if _ then _ else _) = _
      rw [hfield]
      change Option.bind (Text.items _ _ _ _ (_ + 1) _ _) _ = _
      rw [items_last hclear hclose (by decide) (by decide) (by decide) hread]
      rfl
    have htext : "Some".toList ++ '(' :: (c :: cs ++ [')']) ++ rest =
        "Some".toList ++ '(' :: c :: (cs ++ ')' :: rest) := by
      simp
    rw [htext, value_word hsome (by decide) (.opening _)]
    change option? .none (partOf options fuel path) _ = _
    rw [option?, (Clear.cons (by decide) (by decide) _).blanks]
    change Option.bind (contents? _ _) _ = _
    rw [hcontents]
    rfl
  · rw [List.append_assoc]
    exact startsField_of_isPlain hsome (.opening _)

/-- An item of a list on a line of its own. -/
theorem Printed.item {w : List Char} {v : Nested}
    (h : Printed options fuel (path ++ [""]) w v) :
    ReadsAs (partOf options fuel path "") ']' w v where
  read rest hrest := by
    rw [partOf, (h.clear rest).blanks]
    exact h.read rest hrest
  head := by
    obtain ⟨c, cs, hcs, hbegins⟩ := h.head
    exact ⟨c, cs, hcs, hbegins.ne (by decide), hbegins.1, hbegins.ne (by decide)⟩

/-- A field on a line of its own. -/
theorem Printed.field {name : String} {w : List Char} {v : Nested} (hname : IsPlain name.toList)
    (h : Printed options fuel (path ++ [name]) w v) :
    ReadsAs (field? (partOf options fuel path)) ')' (name.toList ++ (':' :: ' ' :: w))
      (name, v) where
  read rest hrest := by
    have hname : name? (name.toList ++ ':' :: ' ' :: (w ++ rest)) =
        some (name, ':' :: ' ' :: (w ++ rest)) := by
      rw [name?_of_isPlain hname (.colon _), String.ofList_toList]
    have hblanks : blanks (':' :: ' ' :: (w ++ rest)) = some (':' :: ' ' :: (w ++ rest)) :=
      (Clear.cons (by decide) (by decide) _).blanks
    have hpart : partOf options fuel path name (' ' :: (w ++ rest)) = some (v, rest) := by
      have hspace : blanks (' ' :: (w ++ rest)) = some (w ++ rest) :=
        @blanks_append [' '] _ (List.forall_mem_singleton.mpr rfl) (h.clear rest)
      rw [partOf, hspace]
      exact h.read rest hrest
    simp [field?, hname, hblanks, hpart]
  head := by
    obtain ⟨c, cs, hcs, hbegins⟩ := hname.head
    rw [hcs]
    exact ⟨c, _, rfl, hbegins.ne (by decide), hbegins.1, hbegins.ne (by decide)⟩

theorem length_le_lines (column : Nat) (parts : List (List Char)) :
    parts.length ≤ (lines column parts).length := by
  induction parts with
  | nil => exact Nat.le_refl 0
  | cons part parts ih =>
    rw [lines, List.flatMap_cons, List.length_append, List.length_append, List.length_cons]
    have hcomma : [','].length = 1 := rfl
    have htail : ((parts.flatMap fun part => (newline column).toList ++ part ++ [',']).length =
      (lines column parts).length) := rfl
    omega

/-- A list with its items on lines. -/
theorem Printed.list (column : Nat) {ws : List String} {vs : List Nested}
    (h : List.Forall₂ (ReadsAs (partOf options fuel path "") ']') (ws.map String.toList) vs) :
    Printed options (fuel + 1) path (block column "[" "]" ws).toList
      ⟨.list (vs.map (·.document)), levelsAround vs⟩ := by
  cases ws with
  | nil =>
    cases h
    have hempty : (block column "[" "]" []).toList = ['[', ']'] := by simp [block]
    rw [hempty]
    refine ⟨fun rest _ => ?_, ⟨_, _, rfl, by decide⟩, fun _ _ => startsField_cons (by decide)⟩
    change value .none options (fuel + 1) path ('[' :: ']' :: rest) = _
    rw [value_bracket, List.length_cons, items_nil (by decide) (by decide)]
    rfl
  | cons w ws =>
    have htext := block_append column "[" "]" (List.cons_ne_nil w ws)
    refine ⟨fun rest _ => ?_, ?_, fun _ _ => ?_⟩
    · rw [htext]
      change value .none options (fuel + 1) path ('[' :: (_ ++ ']' :: rest)) = _
      have hlength := length_le_lines (column + indentation) ((w :: ws).map String.toList)
      rw [value_bracket, items_lines (by decide) (by decide) _ _ h]
      · rfl
      · rw [List.length_append, List.length_append]
        omega
    · have hhead := htext []
      rw [List.append_nil] at hhead
      exact ⟨'[', _, hhead, by decide⟩
    · rw [htext]
      exact startsField_cons (by decide)

/-- The first line tells that fields follow. -/
theorem contents?_lines (column column' : Nat) {name : String} {w : List Char}
    {parts : List (List Char)} {vs : List (String × Nested)} (hname : IsPlain name.toList)
    (h : List.Forall₂ (ReadsAs (field? (partOf options fuel path)) ')')
      ((name.toList ++ (':' :: ' ' :: w)) :: parts) vs) (rest : List Char) :
    contents? (partOf options fuel path)
        (lines column ((name.toList ++ (':' :: ' ' :: w)) :: parts) ++
          (newline column').toList ++ ')' :: rest) = some (.fields vs, rest) := by
  let tail := ' ' :: w ++ ',' :: (lines column parts ++ (newline column').toList ++ ')' :: rest)
  have htext : lines column ((name.toList ++ (':' :: ' ' :: w)) :: parts) ++
      (newline column').toList ++ ')' :: rest =
        (newline column).toList ++ (name.toList ++ ':' :: tail) := by
    simp [lines, tail]
  have hclear : Clear (name.toList ++ ':' :: tail) := by
    obtain ⟨c, cs, hcs, hbegins⟩ := hname.head
    rw [hcs]
    exact hbegins.clear _
  have hstarts : startsField (name.toList ++ ':' :: tail) = true := by
    rw [startsField_of_isPlain hname (.colon _)]
    rfl
  have hfuel : ((name.toList ++ (':' :: ' ' :: w)) :: parts).length <
      (name.toList ++ ':' :: tail).length + 1 := by
    have hlines := length_le_lines column parts
    simp only [tail, List.length_append, List.length_cons]
    omega
  have hitems := items_lines (by decide) (by decide) column column' h rest hfuel []
  rw [htext, items_skip (isBlank_newline column) hclear] at hitems
  rw [htext, contents?, blanks_append (isBlank_newline column) hclear]
  change (if _ then _ else _) = _
  rw [if_pos hstarts, hitems]
  rfl

/-- A record with its fields on lines. -/
theorem Printed.record (column : Nat) {ws : List (String × String)} {vs : List (String × Nested)}
    (hws : ws ≠ []) (hnames : ∀ w ∈ ws, IsPlain w.1.toList)
    (h : List.Forall₂ (ReadsAs (field? (partOf options fuel path)) ')')
      (ws.map fun w => w.1.toList ++ (':' :: ' ' :: w.2.toList)) vs) :
    Printed options (fuel + 1) path
      (block column "(" ")" (ws.map fun w => w.1 ++ ": " ++ w.2)).toList
      ⟨.record none (vs.map fun f => (f.1, f.2.document)), levelsAround (vs.map (·.2))⟩ := by
  cases ws with
  | nil => exact absurd rfl hws
  | cons w ws =>
    have htext (rest : List Char) :
        (block column "(" ")" ((w :: ws).map fun w => w.1 ++ ": " ++ w.2)).toList ++ rest =
          '(' :: (lines (column + indentation)
            ((w :: ws).map fun w => w.1.toList ++ (':' :: ' ' :: w.2.toList)) ++
              (newline column).toList ++ ')' :: rest) := by
      rw [block_append]
      · simp [Function.comp_def]
      · simp
    refine ⟨fun rest _ => ?_, ?_, fun _ _ => ?_⟩
    · have hplain := hnames w List.mem_cons_self
      have hcontents := contents?_lines (column + indentation) column hplain h rest
      rw [htext, value_parenthesis]
      · rw [List.map_cons, hcontents]
        rfl
      · simp [lines, newline]
    · have hhead := htext []
      rw [List.append_nil] at hhead
      exact ⟨'(', _, hhead, by decide⟩
    · rw [htext]
      exact startsField_cons (by decide)

theorem levelsAround_le {n : Nat} {vs : List Nested} (h : ∀ v ∈ vs, v.levels ≤ n) :
    levelsAround vs ≤ n + 2 := by
  have hfold : vs.foldr (fun part n => max (part.levels + 1) n) 0 ≤ n + 1 := by
    induction vs with
    | nil => exact Nat.zero_le _
    | cons v vs ih =>
      rw [List.foldr_cons]
      have hv := h v List.mem_cons_self
      have hvs := ih fun v hv => h v (List.mem_cons_of_mem _ hv)
      omega
  rw [levelsAround]
  omega

theorem exists_items {n column : Nat} {ds : List Document}
    (h : ∀ d ∈ ds, ∃ l ≤ n,
      Printed options fuel (path ++ [""]) (printAt column d).toList ⟨d, l⟩) :
    ∃ vs : List Nested, vs.map (·.document) = ds ∧ (∀ v ∈ vs, v.levels ≤ n) ∧
      List.Forall₂ (ReadsAs (partOf options fuel path "") ']')
        (ds.map fun d => (printAt column d).toList) vs := by
  induction ds with
  | nil => exact ⟨[], rfl, nofun, .nil⟩
  | cons d ds ih =>
    obtain ⟨l, hl, hd⟩ := h d List.mem_cons_self
    obtain ⟨vs, hvs, hlevels, hread⟩ := ih fun d hd => h d (List.mem_cons_of_mem _ hd)
    refine ⟨⟨d, l⟩ :: vs, ?_, List.forall_mem_cons.mpr ⟨hl, hlevels⟩, .cons hd.item hread⟩
    rw [List.map_cons, hvs]

theorem exists_fields {n column : Nat} {fs : List (String × Document)}
    (hnames : ∀ f ∈ fs, IsPlain f.1.toList)
    (h : ∀ f ∈ fs, ∃ l ≤ n,
      Printed options fuel (path ++ [f.1]) (printAt column f.2).toList ⟨f.2, l⟩) :
    ∃ vs : List (String × Nested), (vs.map fun v => (v.1, v.2.document)) = fs ∧
      (∀ v ∈ vs.map (·.2), v.levels ≤ n) ∧
      List.Forall₂ (ReadsAs (field? (partOf options fuel path)) ')')
        (fs.map fun f => f.1.toList ++ (':' :: ' ' :: (printAt column f.2).toList)) vs := by
  induction fs with
  | nil => exact ⟨[], rfl, nofun, .nil⟩
  | cons f fs ih =>
    obtain ⟨l, hl, hf⟩ := h f List.mem_cons_self
    obtain ⟨vs, hvs, hlevels, hread⟩ := ih (fun f hf => hnames f (List.mem_cons_of_mem _ hf))
      fun f hf => h f (List.mem_cons_of_mem _ hf)
    refine ⟨(f.1, ⟨f.2, l⟩) :: vs, ?_, List.forall_mem_cons.mpr ⟨hl, hlevels⟩,
      .cons (hf.field (hnames f List.mem_cons_self)) hread⟩
    rw [List.map_cons, hvs]

section Containers

variable {n column : Nat}

theorem printed_present {d : Document}
    (h : ∃ l ≤ n, Printed options fuel (path ++ [""]) (printAt column d).toList ⟨d, l⟩) :
    ∃ l ≤ n + 1, Printed options (fuel + 1) path (printAt column (.present d)).toList
      ⟨.present d, l⟩ := by
  obtain ⟨l, hl, hd⟩ := h
  have htext : (printAt column (.present d)).toList =
      "Some".toList ++ '(' :: ((printAt column d).toList ++ [')']) := by
    simp [printAt]
  refine ⟨1 + l, by omega, ?_⟩
  rw [htext]
  exact hd.present

theorem printed_list {ds : List Document}
    (h : ∀ d ∈ ds, ∃ l ≤ n,
      Printed options fuel (path ++ [""]) (printAt (column + indentation) d).toList ⟨d, l⟩) :
    ∃ l ≤ n + 2, Printed options (fuel + 1) path (printAt column (.list ds)).toList
      ⟨.list ds, l⟩ := by
  obtain ⟨vs, hds, hlevels, hvs⟩ := exists_items h
  refine ⟨levelsAround vs, levelsAround_le hlevels, ?_⟩
  have hparts : List.Forall₂ (ReadsAs (partOf options fuel path "") ']')
      ((ds.map (printAt (column + indentation))).map String.toList) vs := by
    simpa [Function.comp_def] using hvs
  have hlist := Printed.list column hparts
  rw [hds, ← printItems_eq] at hlist
  exact hlist

theorem printed_record {fs : List (String × Document)} (hfields : fs ≠ [])
    (hnames : ∀ f ∈ fs, IsPlain f.1.toList)
    (h : ∀ f ∈ fs, ∃ l ≤ n,
      Printed options fuel (path ++ [f.1]) (printAt (column + indentation) f.2).toList
        ⟨f.2, l⟩) :
    ∃ l ≤ n + 2, Printed options (fuel + 1) path (printAt column (.record none fs)).toList
      ⟨.record none fs, l⟩ := by
  obtain ⟨vs, hfs, hlevels, hvs⟩ := exists_fields hnames h
  refine ⟨levelsAround (vs.map (·.2)), levelsAround_le hlevels, ?_⟩
  generalize hws : fs.map (fun f => (f.1, printAt (column + indentation) f.2)) = ws
  have hne : ws ≠ [] := by simpa [← hws] using hfields
  have hplain : ∀ w ∈ ws, IsPlain w.1.toList := by
    rw [← hws]
    exact List.forall_mem_map.mpr hnames
  have hparts : List.Forall₂ (ReadsAs (field? (partOf options fuel path)) ')')
      (ws.map fun w => w.1.toList ++ (':' :: ' ' :: w.2.toList)) vs := by
    simpa [← hws, Function.comp_def] using hvs
  have hrecord := Printed.record column hne hplain hparts
  rw [hfs, ← hws, List.map_map] at hrecord
  simpa [printAt, printFields_eq, Function.comp_def] using hrecord

end Containers

/-- A document that can be written is read as it is printed, whatever stands around it. -/
theorem Writable.printed {n : Nat} {d : Document} (h : Writable n d) :
    ∀ {fuel : Nat} {path : List String} (column : Nat), n ≤ fuel →
      ∃ l ≤ n, Printed options (fuel + 1) path (printAt column d).toList ⟨d, l⟩ := by
  -- the parts of a container are read with less fuel, in another column and at another path
  induction h with
  | absent n =>
    intro fuel path column _
    exact ⟨0, Nat.zero_le n, printed_absent⟩
  | bool n b =>
    intro fuel path column _
    exact ⟨0, Nat.zero_le n, printed_bool b⟩
  | number n h =>
    intro fuel path column _
    exact ⟨0, Nat.zero_le n, h.printed⟩
  | text n s =>
    intro fuel path column _
    exact ⟨0, Nat.zero_le n, printed_text s⟩
  | word n h =>
    intro fuel path column _
    exact ⟨0, Nat.zero_le n, h.printed⟩
  | present _ ih =>
    intro fuel path column hfuel
    obtain ⟨fuel, rfl⟩ := Nat.exists_eq_add_one_of_ne_zero (Nat.ne_zero_of_lt hfuel)
    exact printed_present (ih column (by omega))
  | list _ ih =>
    intro fuel path column hfuel
    obtain ⟨fuel, rfl⟩ := Nat.exists_eq_add_one_of_ne_zero (Nat.ne_zero_of_lt hfuel)
    exact printed_list fun d hd => ih d hd _ (by omega)
  | record hfields hnames _ ih =>
    intro fuel path column hfuel
    obtain ⟨fuel, rfl⟩ := Nat.exists_eq_add_one_of_ne_zero (Nat.ne_zero_of_lt hfuel)
    exact printed_record hfields hnames fun f hf => ih f hf _ (by omega)

/-- A printed document is read back from its text. -/
theorem read?_print {n : Nat} {d : Document} (h : Writable n d) (hn : n ≤ greatestLevels) :
    read? options (print d) = some (.none, d) := by
  obtain ⟨l, hl, hd⟩ := @Writable.printed options n d h _ [] 0 hn
  have hread := hd.read [] .nil
  have hclear := hd.clear []
  rw [List.append_nil] at hread hclear
  have hattributes : attributes? ((printAt 0 d).toList.length + 1) .none (printAt 0 d).toList =
      some (.none, (printAt 0 d).toList) := by
    obtain ⟨c, cs, hcs, hbegins⟩ := hd.head
    have hhash : c ≠ '#' := hbegins.ne (by decide)
    rw [hcs] at hclear ⊢
    rw [attributes?, hclear.blanks]
    simp [hhash]
  have hblanks : blanks [] = some [] := Ends.nil.clear.blanks
  have hlevels : l ≤ greatestLevels := Nat.le_trans hl hn
  rw [read?, print, hattributes]
  simp [hread, hblanks, hlevels]

end Landform.Ron
