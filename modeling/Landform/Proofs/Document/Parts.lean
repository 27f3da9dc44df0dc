import Landform.Document.Printer
import Landform.Proofs.Document.Tokens
import Landform.Proofs.Text.Quoted

/-! # Values and their parts are read back

How a value is read depends on the character that it begins with. Parts that stand on lines of their
own are read one after the other. -/

namespace Landform.Ron

open Text (Reader)

/-! ## Values -/

/-- Reads the part with the given name of the value at a path. -/
def partOf (options : List (List String)) (fuel : Nat) (path : List String) : PartReader :=
  fun name cs => (blanks cs).bind (value .none options fuel (path ++ [name]))

variable {options : List (List String)} {fuel : Nat} {path : List String}

theorem part_eq (options : List (List String)) (fuel : Nat) (path : List String) :
    (fun (name : String) (cs : List Char) => (do
      let path := path ++ [name]
      let (v, cs) ← value .none options fuel path (← blanks cs)
      some (if Extensions.none.implicitSome && options.contains path then v.asOption else v, cs) :
        Option (Nested × List Char))) = partOf options fuel path := by
  funext name cs
  unfold partOf
  cases blanks cs with
  | none => rfl
  | some cs =>
    change (value .none options fuel (path ++ [name]) cs).bind _ =
      value .none options fuel (path ++ [name]) cs
    cases value .none options fuel (path ++ [name]) cs <;> rfl

theorem value_parenthesis {cs : List Char} (hcs : cs.head? ≠ some ')') :
    value .none options (fuel + 1) path ('(' :: cs) =
      (contents? (partOf options fuel path) cs).map fun (c, cs) => (c.nested none, cs) := by
  rw [← part_eq]
  conv_lhs => unfold value
  split
  · rename_i heq
    obtain ⟨-, rfl⟩ := List.cons.inj heq
    exact absurd rfl hcs
  · rename_i heq
    obtain ⟨-, rfl⟩ := List.cons.inj heq
    rfl
  · rename_i heq
    cases (List.cons.inj heq).1
  · rename_i heq
    cases (List.cons.inj heq).1
  · rename_i hne _ _
    exact absurd rfl (hne _)

theorem value_bracket {cs : List Char} :
    value .none options (fuel + 1) path ('[' :: cs) =
      (Text.items blanks (partOf options fuel path "") ']' true (cs.length + 1) [] cs).map
        fun (vs, cs) => (⟨.list (vs.map (·.document)), levelsAround vs⟩, cs) := by
  rw [← part_eq]
  rfl

/-- What stands neither in parentheses nor in brackets: a number, a name or a quoted text. -/
theorem value_plain {c : Char} {cs : List Char} (hparenthesis : c ≠ '(') (hbracket : c ≠ '[')
    (hbrace : c ≠ '\x7b') :
    value .none options (fuel + 1) path (c :: cs) =
      match numeric? (c :: cs) with
      | some r => some (⟨r.1, 0⟩, r.2)
      | none =>
        match name? (c :: cs) with
        | none => (quoted? (c :: cs)).map fun r => (⟨r.1, 0⟩, r.2)
        | some (name, rest) =>
          if isRaw (c :: cs) then named? (partOf options fuel path) name rest
          else
            match name with
            | "true" => some (⟨.bool true, 0⟩, rest)
            | "false" => some (⟨.bool false, 0⟩, rest)
            | "None" => some (⟨.absent, 0⟩, rest)
            | "Some" => option? .none (partOf options fuel path) rest
            | name => named? (partOf options fuel path) name rest := by
  rw [← part_eq]
  conv_lhs => unfold value
  split
  · rename_i heq
    exact absurd (List.cons.inj heq).1 hparenthesis
  · rename_i heq
    exact absurd (List.cons.inj heq).1 hparenthesis
  · rename_i heq
    exact absurd (List.cons.inj heq).1 hbracket
  · rename_i heq
    exact absurd (List.cons.inj heq).1 hbrace
  · rfl

theorem value_of_numeric {cs rest : List Char} {n : Numeral}
    (h : numeric? cs = some (.number n, rest)) (hhead : cs.head?.any isRawPart = true) :
    value .none options (fuel + 1) path cs = some (⟨.number n, 0⟩, rest) := by
  cases cs with
  | nil => cases hhead
  | cons c cs =>
    have hc : isRawPart c = true := hhead
    rw [value_plain, h]
    · rintro rfl
      exact absurd hc (by decide)
    · rintro rfl
      exact absurd hc (by decide)
    · rintro rfl
      exact absurd hc (by decide)

theorem value_text (s : String) (rest : List Char) :
    value .none options (fuel + 1) path ((Text.quote .both s).toList ++ rest) =
      some (⟨.text s, 0⟩, rest) := by
  have hread := text?_quote s rest
  rw [quote_append] at hread ⊢
  rw [value_plain (by decide) (by decide) (by decide), numeric?_cons_eq_none (by decide),
    name?_eq_none (by decide)]
  change (quoted? _).map _ = _
  rw [quoted?, hread]
  rfl

/-- What a word stands for is decided by the word alone. -/
theorem value_word {w rest : List Char} (hw : IsPlain w) (hn : numeral? w = none)
    (hrest : EndsWord rest) :
    value .none options (fuel + 1) path (w ++ rest) =
      match String.ofList w with
      | "true" => some (⟨.bool true, 0⟩, rest)
      | "false" => some (⟨.bool false, 0⟩, rest)
      | "None" => some (⟨.absent, 0⟩, rest)
      | "Some" => option? .none (partOf options fuel path) rest
      | name => named? (partOf options fuel path) name rest := by
  have hnumeric := numeric?_of_isPlain hw hn hrest
  have hname := name?_of_isPlain hw hrest
  obtain ⟨hfirst, hall⟩ := hw
  cases w with
  | nil => cases hfirst
  | cons c w =>
    have hfirst : isFirst c = true := hfirst
    have hquote := no_quote (fun d hd => hall d (List.mem_cons_of_mem c hd)) hrest
    have hraw : isRaw (c :: (w ++ rest)) = false := by
      apply Bool.eq_false_iff.mpr
      intro hraw
      obtain ⟨cs, hcs⟩ := List.isPrefixOf_iff_prefix.mp hraw
      obtain ⟨-, htail⟩ := List.cons.inj (show 'r' :: '#' :: cs = c :: (w ++ rest) from hcs)
      exact absurd rfl (hquote '#' (by rw [← htail]; rfl)).1
    rw [List.cons_append] at hnumeric hname ⊢
    rw [value_plain, hnumeric, hname]
    · change (if _ then _ else _) = _
      rw [hraw]
      rfl
    · rintro rfl
      exact absurd hfirst (by decide)
    · rintro rfl
      exact absurd hfirst (by decide)
    · rintro rfl
      exact absurd hfirst (by decide)

/-- A word that nothing follows is just the word. -/
theorem named?_word {part : PartReader} {name : String} {rest : List Char} (hrest : Ends rest) :
    named? part name rest = some (⟨.word name, 0⟩, rest) := by
  rw [named?, hrest.clear.blanks]
  split
  · rename_i heq
    obtain rfl := Option.some.inj heq
    exact absurd (hrest '(' rfl) (by decide)
  · rfl

/-! ## Parts -/

theorem isBlank_newline (column : Nat) : ∀ c ∈ (newline column).toList, isBlank c = true := by
  intro c hc
  have hmem : c = '\n' ∨ column ≠ 0 ∧ c = ' ' := by
    simpa [newline] using hc
  rcases hmem with rfl | ⟨-, rfl⟩ <;> decide

/-- The lines on which parts stand: each after a line break and before a comma. -/
def lines (column : Nat) (parts : List (List Char)) : List Char :=
  parts.flatMap fun part => (newline column).toList ++ part ++ [',']

/-- A part of a value with another one to be read from it. It begins the parts of no other. -/
structure ReadsAs {β : Type} (item : Reader β) (close : Char) (part : List Char) (v : β) :
    Prop where
  read : ∀ rest, Ends rest → item (part ++ rest) = some (v, rest)
  head : ∃ c cs, part = c :: cs ∧ c ≠ close ∧ isBlank c = false ∧ c ≠ '/'

theorem items_skip {β : Type} {item : Reader β} {close : Char} {trailingComma : Bool}
    {done : List β} {fuel : Nat} {bs cs : List Char} (hbs : ∀ c ∈ bs, isBlank c = true)
    (hcs : Clear cs) :
    Text.items blanks item close trailingComma fuel done (bs ++ cs) =
      Text.items blanks item close trailingComma fuel done cs := by
  cases fuel with
  | zero => rfl
  | succ fuel =>
    unfold Text.items
    rw [blanks_append hbs hcs, hcs.blanks]

section Items

variable {β : Type} {item : Reader β} {close c : Char} {cs rest : List Char} {v : β} {done : List β}

/-- An item before a comma. -/
theorem items_cons {fuel : Nat} (hcs : Clear (c :: cs)) (hclose : c ≠ close)
    (hread : item (c :: cs) = some (v, ',' :: rest)) :
    Text.items blanks item close true (fuel + 1) done (c :: cs) =
      Text.items blanks item close true fuel (v :: done) rest := by
  have hcomma : blanks (',' :: rest) = some (',' :: rest) := (Ends.comma rest).clear.blanks
  conv_lhs => unfold Text.items
  simp [hcs.blanks, hclose, hread, hcomma]

/-- The last item, without a comma. -/
theorem items_last {fuel : Nat} (hcs : Clear (c :: cs)) (hclose : c ≠ close)
    (hblank : isBlank close = false) (hslash : close ≠ '/') (hcomma : close ≠ ',')
    (hread : item (c :: cs) = some (v, close :: rest)) :
    Text.items blanks item close true (fuel + 1) done (c :: cs) =
      some ((v :: done).reverse, rest) := by
  have hend : blanks (close :: rest) = some (close :: rest) :=
    (Clear.cons hblank hslash rest).blanks
  unfold Text.items
  simp [hcs.blanks, hclose, hread, hend, hcomma]

/-- The end of the items, after a comma. -/
theorem items_nil {fuel : Nat} (hblank : isBlank close = false) (hslash : close ≠ '/') :
    Text.items blanks item close true (fuel + 1) done (close :: rest) =
      some (done.reverse, rest) := by
  unfold Text.items
  simp [(Clear.cons hblank hslash rest).blanks]

end Items

/-- Parts on lines of their own are read one after the other, up to the closing character. -/
theorem items_lines {β : Type} {item : Reader β} {close : Char} (hblank : isBlank close = false)
    (hslash : close ≠ '/') (column column' : Nat) {parts : List (List Char)} {vs : List β}
    (h : List.Forall₂ (ReadsAs item close) parts vs) (rest : List Char) {fuel : Nat}
    (hfuel : parts.length < fuel) (done : List β) :
    Text.items blanks item close true fuel done
        (lines column parts ++ (newline column').toList ++ close :: rest) =
      some (done.reverse ++ vs, rest) := by
  -- on the parts; what is done grows and the fuel shrinks with each of them
  induction h generalizing fuel done with
  | nil =>
    obtain ⟨fuel, rfl⟩ := Nat.exists_eq_add_one_of_ne_zero (Nat.ne_of_gt hfuel)
    change Text.items _ _ _ _ _ _ ((newline column').toList ++ close :: rest) = _
    rw [items_skip (isBlank_newline column') (.cons hblank hslash rest), items_nil hblank hslash,
      List.append_nil]
  | @cons part v parts vs hpart _ ih =>
    obtain ⟨fuel, rfl⟩ := Nat.exists_eq_add_one_of_ne_zero (Nat.ne_zero_of_lt hfuel)
    obtain ⟨c, cs, rfl, hclose, hcblank, hcslash⟩ := hpart.head
    have hread : item (c :: (cs ++ ',' ::
        (lines column parts ++ (newline column').toList ++ close :: rest))) = _ :=
      hpart.read _ (.comma _)
    have htext : lines column ((c :: cs) :: parts) ++ (newline column').toList ++ close :: rest =
        (newline column).toList ++ ((c :: cs) ++ ',' ::
          (lines column parts ++ (newline column').toList ++ close :: rest)) := by
      simp [lines]
    rw [htext, List.cons_append, items_skip (isBlank_newline column) (.cons hcblank hcslash _),
      items_cons (.cons hcblank hcslash _) hclose hread, ih (Nat.lt_of_succ_lt_succ hfuel)]
    simp

end Landform.Ron
