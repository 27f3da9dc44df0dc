import Landform.Text.Blank
import Mathlib.Data.List.TakeWhile
import Mathlib.Tactic.Common

/-! # Trimmed text

A text has one part without blanks at its ends, with nothing but blanks on both sides, and trimming
finds it. Blanks around a text make no difference to it, and neither does the case of letters, which
are no blanks. -/

namespace Landform.Text

/-! ## The part between the blanks -/

/-- A part of a text that has only blanks on both sides, and none at its own ends. -/
structure Trimmed (cs t : List Char) : Prop where
  surrounded : ∃ before after, cs = before ++ t ++ after ∧ ∀ c ∈ before ++ after, isBlank c = true
  head : ∀ c ∈ t.head?, isBlank c = false
  last : ∀ c ∈ t.getLast?, isBlank c = false

theorem head_dropWhile (cs : List Char) :
    ∀ c ∈ (cs.dropWhile isBlank).head?, isBlank c = false := by
  intro c hc
  have hhead := List.head?_dropWhile_not isBlank cs
  rw [hc] at hhead
  exact hhead

theorem dropWhile_of_head {t : List Char} (h : ∀ c ∈ t.head?, isBlank c = false) :
    t.dropWhile isBlank = t := by
  cases t with
  | nil => rfl
  | cons c t => rw [List.dropWhile_cons, h c rfl, if_neg Bool.false_ne_true]

/-- A text is blanks and what is left without them. -/
theorem exists_blanks (cs : List Char) :
    ∃ bs, cs = bs ++ cs.dropWhile isBlank ∧ ∀ c ∈ bs, isBlank c = true :=
  ⟨cs.takeWhile isBlank, List.takeWhile_append_dropWhile.symm,
    fun _ => List.mem_takeWhile_imp⟩

/-- Blanks at the end are dropped with the others. -/
theorem dropWhile_reverse_append (m : List Char) {after : List Char}
    (h : ∀ c ∈ after, isBlank c = true) :
    ((m ++ after).dropWhile isBlank).reverse.dropWhile isBlank =
      (m.dropWhile isBlank).reverse.dropWhile isBlank := by
  induction m with
  | nil =>
    have hnone : after.dropWhile isBlank = [] := List.dropWhile_eq_nil_iff.mpr h
    rw [List.nil_append, hnone]
    rfl
  | cons c m ih =>
    rw [List.cons_append, List.dropWhile_cons, List.dropWhile_cons]
    split
    · exact ih
    · -- from the first other character on, the blanks are the ones that come first from behind
      rw [← List.cons_append, List.reverse_append, List.dropWhile_append_of_pos]
      exact fun c hc => h c (List.mem_reverse.mp hc)

/-- Trimming leaves the same of a text whatever blanks are around it. -/
theorem trim_surround {before after : List Char} (m : List Char)
    (h : ∀ c ∈ before ++ after, isBlank c = true) : trim (before ++ m ++ after) = trim m := by
  unfold trim
  rw [List.append_assoc, List.dropWhile_append_of_pos fun c hc => h c (List.mem_append_left _ hc),
    dropWhile_reverse_append m fun c hc => h c (List.mem_append_right _ hc)]

theorem Trimmed.eq_trim {cs t : List Char} (h : Trimmed cs t) : t = trim cs := by
  obtain ⟨⟨before, after, rfl, hblank⟩, hhead, hlast⟩ := h
  rw [trim_surround t hblank, trim, dropWhile_of_head hhead]
  rw [← List.head?_reverse] at hlast
  rw [dropWhile_of_head hlast, List.reverse_reverse]

theorem trimmed_trim (cs : List Char) : Trimmed cs (trim cs) := by
  obtain ⟨before, hbefore, hblank⟩ := exists_blanks cs
  obtain ⟨after, hafter, hblank'⟩ := exists_blanks (cs.dropWhile isBlank).reverse
  have hdrop : cs.dropWhile isBlank = trim cs ++ after.reverse := by
    rw [trim, ← List.reverse_append, ← hafter, List.reverse_reverse]
  refine ⟨⟨before, after.reverse, ?_, ?_⟩, ?_, ?_⟩
  · rw [List.append_assoc, ← hdrop, ← hbefore]
  · intro c hc
    rcases List.mem_append.mp hc with hc | hc
    · exact hblank c hc
    · exact hblank' c (List.mem_reverse.mp hc)
  · -- what is left begins as it did before the blanks at the end were dropped
    intro c hc
    refine head_dropWhile cs c ?_
    rw [hdrop, Option.mem_def, List.head?_append, Option.mem_def.mp hc]
    rfl
  · rw [trim, List.getLast?_reverse]
    exact head_dropWhile _

/-! ## Letters -/

/-- The visible characters of ASCII are no blanks. -/
theorem isBlank_eq_false {c : Char} (hlow : 0x20 < c.toNat) (hhigh : c.toNat < 0x80) :
    isBlank c = false := by
  rw [Bool.eq_false_iff]
  simp only [isBlank, ne_eq, Bool.or_eq_true, Bool.and_eq_true, decide_eq_true_eq, beq_iff_eq]
  omega

theorem isBlank_toLower (c : Char) : isBlank c.toLower = isBlank c := by
  unfold Char.toLower
  split
  · -- an upper case letter and the lower case letter 32 places after it
    rename_i h
    simp only [ge_iff_le, UInt32.le_iff_toNat_le] at h
    have hlow : 65 ≤ c.toNat := h.1
    have hhigh : c.toNat ≤ 90 := h.2
    have hlower : (c.val + 32).toNat = c.toNat + 32 := by
      rw [UInt32.toNat_add]
      exact Nat.mod_eq_of_lt (by change c.toNat + 32 < _; omega)
    have hletter : isBlank c = false := isBlank_eq_false (by omega) (by omega)
    rw [hletter]
    refine isBlank_eq_false ?_ ?_
    · change _ < (c.val + 32).toNat
      omega
    · change (c.val + 32).toNat < _
      omega
  · rfl

theorem trim_map_toLower (cs : List Char) :
    trim (cs.map Char.toLower) = (trim cs).map Char.toLower := by
  have hblank : isBlank ∘ Char.toLower = isBlank := funext isBlank_toLower
  unfold trim
  rw [List.dropWhile_map, hblank, ← List.map_reverse, List.dropWhile_map, hblank,
    ← List.map_reverse]

end Landform.Text
