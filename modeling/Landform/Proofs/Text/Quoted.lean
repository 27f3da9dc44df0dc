import Landform.Document.Ron.Literal
import Landform.Text.Quoted
import Mathlib.Tactic.Common
import Mathlib.Tactic.IntervalCases

/-! # Quoted text is read back

Each character of a text is written as itself or as an escape, and either way it is read as one
character. So a quoted text is read up to its closing quote, and as the text that was quoted. -/

namespace Landform

namespace Text

/-! ## Code points -/

theorem hexDigits?_concat {cs : List Char} {n d : Nat} (h : hexDigits? cs = some n) (hd : d < 16) :
    hexDigits? (cs ++ [d.digitChar]) = some (16 * n + d) := by
  unfold hexDigits? at h ⊢
  rw [List.foldlM_append, h]
  interval_cases d <;> rfl

theorem hexDigits?_toDigits (n : Nat) : hexDigits? (Nat.toDigits 16 n) = some n := by
  induction n using Nat.strongRecOn with
  | ind n ih =>
    rcases Nat.lt_or_ge n 16 with hn | hn
    · rw [Nat.toDigits_of_lt_base hn]
      have hnil : hexDigits? [] = some 0 := rfl
      simpa using hexDigits?_concat hnil hn
    · have hless : n / 16 < n := Nat.div_lt_self (by omega) (by decide)
      rw [Nat.toDigits_of_base_le (by decide) hn,
        hexDigits?_concat (ih _ hless) (Nat.mod_lt n (by decide)), Nat.div_add_mod]

theorem length_toDigits_toNat_le (c : Char) : (Nat.toDigits 16 c.toNat).length ≤ 6 := by
  have hc : c.toNat < 0x110000 := by
    have hvalid := c.valid
    simp only [UInt32.isValidChar, Nat.isValidChar] at hvalid
    change c.val.toNat < _
    omega
  exact (Nat.length_toDigits_le_iff (by decide) (by decide)).mpr (by omega)

theorem charAt?_toNat (c : Char) : charAt? c.toNat = some c := by
  have hvalid : c.toNat.isValidChar := c.valid
  rw [charAt?, if_pos hvalid, Char.ofNat_toNat]

theorem exists_digit_of_mem_toDigits {c : Char} {n : Nat} (h : c ∈ Nat.toDigits 16 n) :
    ∃ d < 16, c = d.digitChar := by
  induction n using Nat.strongRecOn with
  | ind n ih =>
    rcases Nat.lt_or_ge n 16 with hn | hn
    · rw [Nat.toDigits_of_lt_base hn, List.mem_singleton] at h
      exact ⟨n, hn, h⟩
    · rw [Nat.toDigits_of_base_le (by decide) hn, List.mem_append, List.mem_singleton] at h
      rcases h with h | h
      · exact ih _ (Nat.div_lt_self (by omega) (by decide)) h
      · exact ⟨_, Nat.mod_lt n (by decide), h⟩

theorem brace_notMem_toDigits (n : Nat) : '\x7d' ∉ Nat.toDigits 16 n := by
  intro h
  obtain ⟨d, hd, heq⟩ := exists_digit_of_mem_toDigits h
  interval_cases d <;> cases heq

end Text

namespace Ron

open Text

/-- The escape of a code point is read up to its closing brace. -/
theorem codeEscape?_hex (c : Char) (cs : List Char) :
    codeEscape? ('\x7b' :: (Nat.toDigits 16 c.toNat ++ '\x7d' :: cs)) = some (c, cs) := by
  have hlength := length_toDigits_toNat_le c
  have hbrace := brace_notMem_toDigits c.toNat
  have hread := hexDigits?_toDigits c.toNat
  have hne : Nat.toDigits 16 c.toNat ≠ [] := Nat.toDigits_ne_nil
  generalize hds : Nat.toDigits 16 c.toNat = ds at hlength hbrace hread hne ⊢
  -- at most six digits are looked at, and a character never has more
  have htake : ((ds ++ '\x7d' :: cs).take 6).takeWhile (· != '\x7d') = ds := by
    have hall : ∀ d ∈ ds, (d != '\x7d') = true := by
      intro d hd
      exact bne_iff_ne.mpr fun heq => hbrace (heq ▸ hd)
    rw [List.take_append, List.take_of_length_le hlength,
      List.takeWhile_append_of_pos hall]
    cases 6 - ds.length with
    | zero => rw [List.take_zero, List.takeWhile_nil, List.append_nil]
    | succ k => simp
  simp only [codeEscape?, htake, List.isEmpty_iff, hne, if_false, hread, List.drop_left]
  change (charAt? c.toNat).bind _ = _
  rw [charAt?_toNat]
  rfl

/-- A character that stands for itself in a string. -/
theorem string?_cons {hexadecimal? : Reader Char} {fuel : Nat} {done cs : List Char} {c : Char}
    (hquote : c ≠ '"') (hslash : c ≠ '\\') :
    string? hexadecimal? (fuel + 1) done (c :: cs) =
      string? hexadecimal? fuel (c :: done) cs := by
  conv_lhs => unfold string?
  split
  · rename_i h
    exact absurd (List.cons.inj h).1 hquote
  · rename_i h
    exact absurd (List.cons.inj h).1 hslash
  · rename_i h
    exact absurd (List.cons.inj h).1 hslash
  · rename_i h
    exact absurd (List.cons.inj h).1 hslash
  · rename_i h
    obtain ⟨rfl, rfl⟩ := List.cons.inj h
    rfl
  · rename_i h
    cases h

/-- However a character is written between quotes, it is read as that character. -/
theorem string?_escape {hexadecimal? : Reader Char} {fuel : Nat} {done cs : List Char} (c : Char) :
    string? hexadecimal? (fuel + 1) done ((escape .both c).toList ++ cs) =
      string? hexadecimal? fuel (c :: done) cs := by
  unfold escape
  split
  · rfl
  · rfl
  · rfl
  · rfl
  · rfl
  · rfl
  · rfl
  · -- no escape of its own: as it is where it can be shown, else by its code point
    rename_i _ _ _ _ hslash hquote _
    split
    · have hself : c.toString.toList = [c] := String.toList_singleton c
      rw [hself]
      exact string?_cons hquote hslash
    · have htext : ("\\u\x7b" ++ hex c.toNat ++ "\x7d").toList ++ cs =
          '\\' :: 'u' :: '\x7b' :: (Nat.toDigits 16 c.toNat ++ '\x7d' :: cs) := by
        simp [hex]
      have hstep (rest : List Char) : string? hexadecimal? (fuel + 1) done ('\\' :: 'u' :: rest) =
          (codeEscape? rest).bind fun r => string? hexadecimal? fuel (r.1 :: done) r.2 := rfl
      rw [htext, hstep, codeEscape?_hex]
      rfl

/-- A string is read up to its closing quote. Each of its characters takes one step. -/
theorem string?_escapes {hexadecimal? : Reader Char} {fuel : Nat} {done cs : List Char}
    (text : List Char) (hfuel : text.length < fuel) :
    string? hexadecimal? fuel done (text.flatMap (fun c => (escape .both c).toList) ++ '"' :: cs) =
      some (String.ofList (done.reverse ++ text), cs) := by
  induction text generalizing done fuel with
  | nil =>
    obtain ⟨fuel, rfl⟩ := Nat.exists_eq_add_one_of_ne_zero (Nat.ne_of_gt hfuel)
    rw [List.append_nil]
    rfl
  | cons c text ih =>
    obtain ⟨fuel, rfl⟩ := Nat.exists_eq_add_one_of_ne_zero (Nat.ne_zero_of_lt hfuel)
    rw [List.flatMap_cons, List.append_assoc, string?_escape, ih (Nat.lt_of_succ_lt_succ hfuel),
      List.reverse_cons, List.append_assoc]
    rfl

theorem length_le_escapes (text : List Char) :
    text.length ≤ (text.flatMap fun c => (escape .both c).toList).length := by
  induction text with
  | nil => exact Nat.le_refl 0
  | cons c text ih =>
    have hc : 1 ≤ (escape .both c).toList.length := by
      unfold escape
      split
      · decide
      · decide
      · decide
      · decide
      · decide
      · decide
      · decide
      · split <;> simp
    rw [List.flatMap_cons, List.length_append, List.length_cons]
    omega

theorem quote_append (s : String) (cs : List Char) :
    (quote .both s).toList ++ cs =
      '"' :: (s.toList.flatMap (fun c => (escape .both c).toList) ++ '"' :: cs) := by
  simp [quote, String.toList_join, List.flatMap_map]

/-- A quoted text is read as the text that was quoted. -/
theorem text?_quote (s : String) (cs : List Char) :
    text? ((quote .both s).toList ++ cs) = some (s, cs) := by
  have hfuel := length_le_escapes s.toList
  rw [quote_append]
  change string? encodedEscape? _ [] _ = _
  rw [string?_escapes, List.reverse_nil, List.nil_append, String.ofList_toList]
  rw [List.length_append]
  omega

end Ron

end Landform
