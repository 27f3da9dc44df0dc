import Landform.Proofs.Number.Order
import Landform.Proofs.Table.Accepted
import Landform.Terrain.Marking

/-! # Rows along an axis

Ores come in rows by height and structures in rows by depth. A row covers what is below its bound,
but not below the bound of the row before it. The check of a table compares neighbouring rows only,
yet all bounds ascend, so that no value is covered twice and the search from the front finds the
row that covers it. What no row covers goes to the last one. -/

namespace Landform

/-! ## Bounds -/

/-- Values that are in order as far as they can be compared. Heights always can, depths only if they
are numbers. -/
class Bounds (κ : Type) [LT κ] [LE κ] : Prop where
  lt_irrefl (a : κ) : ¬a < a
  le_of_lt {a b : κ} : a < b → a ≤ b
  lt_of_le_of_lt {a b c : κ} : a ≤ b → b < c → a < c
  /-- What is less than something can be compared. -/
  le_of_not_lt {a b c : κ} : a < c → b < c → ¬a < b → b ≤ a

instance : Bounds Int32 where
  lt_irrefl _ := Int32.lt_irrefl
  le_of_lt := Int32.le_of_lt
  lt_of_le_of_lt := Int32.lt_of_le_of_lt
  le_of_not_lt _ _ := Int32.not_lt.mp

instance : Bounds Float where
  lt_irrefl _ h := lt_irrefl _ (lt_iff_rank.mp h).2
  le_of_lt h := le_iff_rank.mpr ⟨(lt_iff_rank.mp h).1, (lt_iff_rank.mp h).2.le⟩
  lt_of_le_of_lt := Scalar.Ordered.lt_of_le_of_lt
  le_of_not_lt {a b c} ha hb hab := by
    have ha := (lt_iff_rank.mp ha).1.1
    have hb := (lt_iff_rank.mp hb).1.1
    exact le_iff_rank.mpr ⟨⟨hb, ha⟩, not_lt.mp fun h => hab (lt_iff_rank.mpr ⟨⟨ha, hb⟩, h⟩)⟩

theorem isAscending_iff_isChain {β : Type} {less : β → β → Bool} {l : List β} :
    isAscending less l ↔ l.IsChain fun a b => less a b := by
  fun_induction isAscending less l with
  | case1 a b rest ih => rw [Bool.and_eq_true, ih, List.isChain_cons_cons]
  | case2 l hshort =>
    refine iff_of_true rfl ?_
    cases l with
    | nil => exact .nil
    | cons a l =>
      cases l with
      | nil => exact .singleton a
      | cons b l => exact absurd rfl (hshort a b l)

namespace Rows

/-! ## Searching rows -/

section Search

variable {β κ : Type} [LT κ] [DecidableLT κ]

/-- What the check asks of rows: each bound is less than the next. -/
def InOrder (bound : β → κ) (rows : List β) : Prop :=
  isAscending (fun a b => decide (bound a < bound b)) rows

/-- The place of the first row whose bound a value is below, or of the last row. -/
def place (bound : β → κ) (rows : List β) (v : κ) : ℕ :=
  min (rows.findIdx fun b => decide (v < bound b)) (rows.length - 1)

/-- At the place of a value stands the row that a search with the last row in reserve gives. -/
theorem getElem?_place (bound : β → κ) (rows : List β) (v : κ) :
    rows[place bound rows v]? =
      (rows.find? fun b => decide (v < bound b)).or rows.getLast? := by
  rw [place, List.find?_eq_getElem?_findIdx, List.getLast?_eq_getElem?]
  rcases Nat.lt_or_ge (rows.findIdx fun b => decide (v < bound b)) rows.length with h | h
  · rw [min_eq_left (Nat.le_sub_one_of_lt h), List.getElem?_eq_getElem h, Option.some_or]
  · rw [min_eq_right ((Nat.sub_le _ _).trans h), List.getElem?_eq_none h, Option.none_or]

theorem exists_mem_place (bound : β → κ) {rows : List β} (hne : rows ≠ []) (v : κ) :
    ∃ b, b ∈ rows[place bound rows v]? := by
  have hlength := List.length_pos_iff.mpr hne
  exact ⟨_, List.getElem?_eq_getElem (by unfold place; omega)⟩

end Search

/-! ## Covering the values -/

section Parts

variable {β κ : Type} [LT κ] [LE κ]

/-- Row `i` covers a value: the value is below its bound, and not below that of the row before. -/
structure Covers (bound : β → κ) (rows : List β) (v : κ) (i : ℕ) : Prop where
  below : ∃ b ∈ rows[i]?, v < bound b
  above : ∀ j, j + 1 = i → ∃ b ∈ rows[j]?, bound b ≤ v

/-- Row `i` is the only one that covers a value, or it is the last one and none does. -/
inductive Holds (bound : β → κ) (rows : List β) (v : κ) (i : ℕ) : Prop
  | covering (covers : Covers bound rows v i) (unique : ∀ j, Covers bound rows v j → j = i)
  | last (beyond : ∀ j, ¬Covers bound rows v j) (isLast : i + 1 = rows.length)

/-- All bounds ascend, every value is held by the row at its place, and greater values have no
earlier place. -/
structure Parted [DecidableLT κ] (bound : β → κ) (rows : List β) : Prop where
  pairwise : rows.Pairwise fun a b => bound a < bound b
  holds : ∀ v, Holds bound rows v (place bound rows v)
  mono : ∀ v w, v ≤ w → place bound rows v ≤ place bound rows w

variable [Bounds κ] {bound : β → κ} {rows : List β} {v w : κ} {i j : ℕ}

theorem InOrder.pairwise [DecidableLT κ] (h : InOrder bound rows) :
    rows.Pairwise fun a b => bound a < bound b := by
  have htrans : Trans (fun a b : β => bound a < bound b) (fun a b => bound a < bound b)
      (fun a b => bound a < bound b) :=
    ⟨fun hab hbc => Bounds.lt_of_le_of_lt (Bounds.le_of_lt hab) hbc⟩
  have hchain := isAscending_iff_isChain.mp h
  simp only [decide_eq_true_eq] at hchain
  exact hchain.pairwise

/-- What a row covers is below the bounds of no earlier rows. -/
theorem Covers.not_lt (hrows : rows.Pairwise fun a b => bound a < bound b)
    (h : Covers bound rows v i) (hj : j < i) {b : β} (hb : b ∈ rows[j]?) : ¬v < bound b := by
  intro hv
  -- the row before `i` is row `j` or stands behind it, so its bound is not below that of row `j`
  obtain ⟨c, hc, hcv⟩ := h.above (i - 1) (by omega)
  have hcb : bound c < bound b := Bounds.lt_of_le_of_lt hcv hv
  obtain ⟨hjlt, rfl⟩ := List.getElem?_eq_some_iff.mp hb
  obtain ⟨hilt, rfl⟩ := List.getElem?_eq_some_iff.mp hc
  rcases (Nat.le_sub_one_of_lt hj).eq_or_lt with heq | hlt
  · subst heq
    exact Bounds.lt_irrefl _ hcb
  · have hbc := List.pairwise_iff_getElem.mp hrows _ _ hjlt hilt hlt
    exact Bounds.lt_irrefl _ (Bounds.lt_of_le_of_lt (Bounds.le_of_lt hcb) hbc)

theorem Covers.unique (hrows : rows.Pairwise fun a b => bound a < bound b)
    (hi : Covers bound rows v i) (hj : Covers bound rows v j) : i = j := by
  obtain ⟨a, ha, hva⟩ := hi.below
  obtain ⟨b, hb, hvb⟩ := hj.below
  rcases lt_trichotomy i j with h | h | h
  · exact absurd hva (hj.not_lt hrows h ha)
  · exact h
  · exact absurd hvb (hi.not_lt hrows h hb)

variable [DecidableLT κ]

/-- The first row whose bound a value is below covers it. -/
theorem covers_findIdx (hrows : rows.Pairwise fun a b => bound a < bound b)
    (h : rows.findIdx (fun b => decide (v < bound b)) < rows.length) :
    Covers bound rows v (rows.findIdx fun b => decide (v < bound b)) := by
  have hbelow := of_decide_eq_true (List.findIdx_getElem (w := h))
  refine ⟨⟨_, List.getElem?_eq_getElem h, hbelow⟩, fun j hj => ?_⟩
  -- the search passed row `j`, and both the value and its bound are below the bound found
  have hjlt : j < rows.length := by omega
  have hlt : j < rows.findIdx fun b => decide (v < bound b) := by omega
  have hnot := of_decide_eq_false (List.not_of_lt_findIdx hlt)
  have hnext := List.pairwise_iff_getElem.mp hrows _ _ hjlt h (by omega)
  exact ⟨rows[j], List.getElem?_eq_getElem hjlt, Bounds.le_of_not_lt hbelow hnext hnot⟩

theorem holds_place (hne : rows ≠ []) (hrows : rows.Pairwise fun a b => bound a < bound b) (v : κ) :
    Holds bound rows v (place bound rows v) := by
  have hlength := List.length_pos_iff.mpr hne
  unfold place
  rcases Nat.lt_or_ge (rows.findIdx fun b => decide (v < bound b)) rows.length with h | h
  · rw [min_eq_left (Nat.le_sub_one_of_lt h)]
    have hcovers := covers_findIdx hrows h
    exact .covering hcovers fun j hj => hj.unique hrows hcovers
  · rw [min_eq_right ((Nat.sub_le _ _).trans h)]
    refine .last (fun j hj => ?_) (Nat.sub_add_cancel hlength)
    obtain ⟨b, hb, hvb⟩ := hj.below
    have hnone := List.findIdx_eq_length.mp (le_antisymm List.findIdx_le_length h)
    exact of_decide_eq_false (hnone b (List.mem_of_getElem? hb)) hvb

theorem Covers.eq_place (h : Covers bound rows v i) (hne : rows ≠ [])
    (hrows : rows.Pairwise fun a b => bound a < bound b) : place bound rows v = i := by
  cases holds_place hne hrows v with
  | covering _ unique => exact (unique i h).symm
  | last beyond => exact absurd h (beyond i)

/-- What is below a bound keeps below it when it gets less. -/
theorem place_mono (h : v ≤ w) : place bound rows v ≤ place bound rows w := by
  refine min_le_min_right _ (List.findIdx_le_findIdx fun b _ hb => ?_)
  rw [decide_eq_true_iff] at hb ⊢
  exact Bounds.lt_of_le_of_lt h hb

/-- Rows in order part all values among them. -/
theorem InOrder.parted (h : InOrder bound rows) (hne : rows ≠ []) : Parted bound rows :=
  ⟨h.pairwise, holds_place hne h.pairwise, fun _ _ => place_mono⟩

end Parts

/-! ## The rows of a table -/

section Heights

variable {β : Type} {bound : β → Int32} {rows : List β} {i : ℕ}

theorem exists_ofNat_eq (v : Int32) : ∃ y < 2 ^ 32, Int32.ofNat y = v :=
  ⟨v.toBitVec.toNat, v.toBitVec.isLt, Int32.toBitVec.inj (by simp)⟩

theorem toInt_sub_one {b : Int32} (h : Int32.minValue < b) : (b - 1).toInt = b.toInt - 1 := by
  rw [Int32.lt_iff_toInt_lt, Int32.toInt_minValue] at h
  have hlt := b.toInt_lt
  rw [Int32.toInt_sub, show Int32.toInt 1 = 1 from rfl]
  exact Int.bmod_eq_of_le (by omega) (by omega)

/-- The greatest height below its bound is covered by a row, unless the bound is the least
number. -/
theorem covers_sub_one (hrows : rows.Pairwise fun a b => bound a < bound b) {b : β}
    (hb : b ∈ rows[i]?) (hmin : Int32.minValue < bound b) :
    Covers bound rows (bound b - 1) i := by
  have hpred := toInt_sub_one hmin
  obtain ⟨hi, rfl⟩ := List.getElem?_eq_some_iff.mp hb
  refine ⟨⟨_, hb, Int32.lt_iff_toInt_lt.mpr (by omega)⟩, fun j hj => ?_⟩
  have hlt := List.pairwise_iff_getElem.mp hrows j i (by omega) hi (by omega)
  rw [Int32.lt_iff_toInt_lt] at hlt
  exact ⟨_, List.getElem?_eq_getElem (by omega), Int32.le_iff_toInt_le.mpr (by omega)⟩

/-- Every row that is not below all heights is the row of some height. -/
theorem exists_place_eq (hrows : rows.Pairwise fun a b => bound a < bound b) {b : β}
    (hb : b ∈ rows[i]?) (hmin : Int32.minValue < bound b) :
    ∃ y < 2 ^ 32, place bound rows (Int32.ofNat y) = i := by
  -- negative heights are reached by numbers that wrap around
  obtain ⟨y, hy, hheight⟩ := exists_ofNat_eq (bound b - 1)
  have hne : rows ≠ [] := List.ne_nil_of_mem (List.mem_of_getElem? hb)
  exact ⟨y, hy, hheight ▸ (covers_sub_one hrows hb hmin).eq_place hne hrows⟩

end Heights

end Rows

namespace Marking

variable {α : Type} (k : Marking α)

/-- With rows there, the ore at a height is that of the row at its place. -/
theorem oreAt_eq_of_place (h : k.oreBands ≠ []) (y : ℕ) :
    ∃ band ∈ k.oreBands[Rows.place OreBand.belowY k.oreBands (Int32.ofNat y)]?,
      k.oreAt y = band.ore := by
  obtain ⟨band, hband⟩ := Rows.exists_mem_place OreBand.belowY h (Int32.ofNat y)
  refine ⟨band, hband, ?_⟩
  rw [Rows.getElem?_place, Option.mem_def] at hband
  rw [oreAt, hband]

/-- With rows there, the structure at a depth is that of the row at its place. -/
theorem structureAt_eq_of_place [Scalar α] (h : k.structureBands ≠ []) (depth : α) :
    ∃ band ∈ k.structureBands[Rows.place StructureBand.maxDepth k.structureBands depth]?,
      k.structureAt depth = band.structure_ := by
  obtain ⟨band, hband⟩ := Rows.exists_mem_place StructureBand.maxDepth h depth
  refine ⟨band, hband, ?_⟩
  rw [Rows.getElem?_place, Option.mem_def] at hband
  rw [structureAt, hband]

end Marking

namespace MarkerTable

open Rows

/-- The rows of markers that pass their check are in order. Rows in order part all heights and all
depths among them, a marked voxel gets what its row names, and no row of ore above the least height
goes unused. -/
theorem rows_partition (t : MarkerTable Float) (key : ChunkKey) :
    (∀ d, t.check d = .ok () →
        InOrder OreBand.belowY t.oreBands ∧ InOrder StructureBand.maxDepth t.structureBands) ∧
      (t.oreBands ≠ [] → InOrder OreBand.belowY t.oreBands →
        Parted OreBand.belowY t.oreBands ∧
          (∀ y, ∃ band ∈ t.oreBands[place OreBand.belowY t.oreBands (Int32.ofNat y)]?,
            (Marking.ofTable t key).oreAt y = band.ore) ∧
          ∀ i, ∀ band ∈ t.oreBands[i]?, Int32.minValue < band.belowY →
            ∃ y < 2 ^ 32, place OreBand.belowY t.oreBands (Int32.ofNat y) = i) ∧
      (t.structureBands ≠ [] → InOrder StructureBand.maxDepth t.structureBands →
        Parted StructureBand.maxDepth t.structureBands ∧
          ∀ depth,
            ∃ band ∈ t.structureBands[place StructureBand.maxDepth t.structureBands depth]?,
              (Marking.ofTable t key).structureAt depth = band.structure_) := by
  refine ⟨fun d h => ?_, fun hne h => ?_, fun hne h => ?_⟩
  · obtain ⟨-, -, hore, -, hstructure⟩ := check_eq_ok.mp h
    exact ⟨hore, hstructure⟩
  · have hrow := (Marking.ofTable t key).oreAt_eq_of_place hne
    exact ⟨h.parted hne, hrow, fun i band => exists_place_eq h.pairwise⟩
  · exact ⟨h.parted hne, (Marking.ofTable t key).structureAt_eq_of_place hne⟩

theorem rows_partition_overworld :
    let t : MarkerTable Float := (Table.default.dimension .overworld).markers
    t.check .overworld = .ok () ∧
      Parted OreBand.belowY t.oreBands ∧ Parted StructureBand.maxDepth t.structureBands ∧
      (∃ y < 2 ^ 32, place OreBand.belowY t.oreBands (Int32.ofNat y) = 2) ∧
      (Marking.ofTable t ⟨3, -7, 11, .overworld⟩).oreAt 40 = .ironOre ∧
      (Marking.ofTable t ⟨3, -7, 11, .overworld⟩).oreAt 200 = .coalOre := by
  intro t
  have hcheck : t.check .overworld = .ok () := Table.markers_check Table.check_default .overworld
  obtain ⟨horder, hore, hstructure⟩ := rows_partition t ⟨3, -7, 11, .overworld⟩
  obtain ⟨hores, hstructures⟩ := horder .overworld hcheck
  obtain ⟨hparted, hrow, hused⟩ := hore (List.cons_ne_nil _ _) hores
  have hat (y i : ℕ) (hplace : place OreBand.belowY t.oreBands (Int32.ofNat y) = i) (m : Material)
      (hm : t.oreBands[i]?.map (·.ore) = some m) :
      (Marking.ofTable t ⟨3, -7, 11, .overworld⟩).oreAt y = m := by
    obtain ⟨band, hband, h⟩ := hrow y
    rw [hplace, Option.mem_def] at hband
    rw [hband] at hm
    exact h.trans (Option.some.inj hm)
  exact ⟨hcheck, hparted, (hstructure (List.cons_ne_nil _ _) hstructures).1,
    hused 2 _ rfl (by decide), hat 40 2 (by decide) _ rfl, hat 200 3 (by decide) _ rfl⟩

end MarkerTable

end Landform
