import Landform.Proofs.Chunk.Voxelwise
import Mathlib.Algebra.BigOperators.Group.Finset.Basic
import Mathlib.Algebra.Order.BigOperators.Group.Multiset
import Mathlib.Data.Fintype.EquivFin
import Mathlib.Data.Fintype.Prod

/-! # Previews

The biomes of a chunk can be had without any of its voxels. Such a preview goes its own way through
the columns, but it reads the same climate at the same points as a whole generation. So it is the
biome field of the chunk, in whatever order the columns are visited by either of them, and what is
computed from the biomes alone, the checksum and the histogram, can be computed from the preview. -/

namespace Landform

open Layout

/-! ## Counting columns -/

/-- A column by its coordinates and by its number. -/
def columnEquiv : Fin width × Fin width ≃ Fin area where
  toFun p := column p.1 p.2
  invFun i := (columnX i, columnZ i)
  left_inv p := by simp only [columnX_column, columnZ_column]
  right_inv i := column_coords i

/-- How often a value stands in a field is how many columns have it. -/
theorem ColumnField.count_toList {β : Type} [DecidableEq β] (f : ColumnField β) (b : β) :
    f.toList.count b =
      (Finset.univ.filter fun p : Fin width × Fin width => f.value p.1 p.2 = b).card := by
  have hlist : f.toList = (List.finRange area).map f.get := by
    rw [← List.ofFn_eq_map, ← Vector.toList_ofFn]
    refine congrArg Vector.toList (Vector.ext fun i hi => ?_)
    rw [Vector.getElem_ofFn]
    rfl
  have hnumbers : f.toList.count b = (Finset.univ.filter fun i : Fin area => f.get i = b).card := by
    rw [hlist, List.count, List.countP_map, List.countP_eq_length_filter]
    rfl
  rw [hnumbers]
  refine (Finset.card_equiv columnEquiv fun p => ?_).symm
  simp only [Finset.mem_filter, Finset.mem_univ, true_and]
  rfl

namespace Biome

theorem mem_all (b : Biome) : b ∈ all := by cases b <;> decide

theorem all_nodup : all.Nodup := by decide

theorem ofCode?_code (b : Biome) : ofCode? b.code = some b := by cases b <;> rfl

theorem code_inj {b c : Biome} : b.code = c.code ↔ b = c := by
  refine ⟨fun h => ?_, congrArg code⟩
  rw [← Option.some_inj, ← ofCode?_code b, ← ofCode?_code c, h]

theorem code_of_getElem?_all {i : Nat} {b : Biome} (h : all[i]? = some b) : b.code.toNat = i := by
  have hcodes : all.map (·.code.toNat) = List.range all.length := by decide
  have hentry := congrArg (·[i]?) hcodes
  obtain ⟨hi, -⟩ := List.getElem?_eq_some_iff.mp h
  simp only [List.getElem?_map, h, Option.map_some, List.getElem?_range hi] at hentry
  exact Option.some.inj hentry

/-- Every biome of a list is counted once. -/
theorem sum_count (l : List Biome) : (all.map l.count).sum = l.length := by
  have hsum : ∑ b ∈ all.toFinset, (l : Multiset Biome).count b =
      Multiset.card (l : Multiset Biome) :=
    Multiset.sum_count_eq_card fun b _ => List.mem_toFinset.mpr (mem_all b)
  simp only [Multiset.coe_count, Multiset.coe_card] at hsum
  rw [← hsum, List.sum_toFinset _ all_nodup]

end Biome

namespace Chunk

/-- Every biome that is counted raises the entry at its code by one. -/
theorem getElem?_foldl_modify (l : List Biome) (counts : List Nat) (i : Nat) :
    (l.foldl (fun counts b => counts.modify b.code.toNat (· + 1)) counts)[i]? =
      counts[i]?.map (· + l.countP (·.code.toNat = i)) := by
  induction l generalizing counts with
  | nil => exact Option.map_id'.symm
  | cons b l ih =>
    rw [List.foldl_cons, ih, List.getElem?_modify, Option.map_eq_map, Option.map_map]
    refine congrArg (counts[i]?.map ·) (funext fun n => ?_)
    rw [List.countP_cons]
    simp only [Function.comp_apply, decide_eq_true_eq]
    split <;> omega

variable (c : Chunk)

/-- What the loop over the columns leaves is the number of columns of every biome. -/
theorem biomeHistogram_eq : c.biomeHistogram = Biome.all.map c.biome.toList.count := by
  refine List.ext_getElem? fun i => ?_
  rw [biomeHistogram, getElem?_foldl_modify, List.getElem?_map]
  cases hb : Biome.all[i]? with
  | none =>
    have hi : Biome.all.length ≤ i := List.getElem?_eq_none_iff.mp hb
    rw [List.getElem?_eq_none (List.length_replicate.trans_le hi)]
    rfl
  | some b =>
    obtain ⟨hi, -⟩ := List.getElem?_eq_some_iff.mp hb
    have hcode : b.code.toNat = i := Biome.code_of_getElem?_all hb
    have hcount : c.biome.toList.countP (·.code.toNat = i) = c.biome.toList.count b := by
      refine List.countP_congr fun b' _ => ?_
      rw [decide_eq_true_iff, beq_iff_eq, ← hcode, UInt8.toNat_inj, Biome.code_inj]
    rw [List.getElem?_replicate, if_pos hi, hcount, Option.map_some, Nat.zero_add]
    rfl

theorem biomeHistogram_length : c.biomeHistogram.length = Biome.all.length := by
  rw [biomeHistogram_eq, List.length_map]

theorem biomeHistogram_sum : c.biomeHistogram.sum = area := by
  rw [biomeHistogram_eq, Biome.sum_count, Vector.length_toList]

theorem biomeHistogram_code (b : Biome) :
    c.biomeHistogram[b.code.toNat]? = some (Finset.univ.filter fun p : Fin width × Fin width =>
      (c.biome.value p.1 p.2).code = b.code).card := by
  have hentry : c.biomeHistogram[b.code.toNat]? = some (c.biome.toList.count b) := by
    rw [biomeHistogram_eq, List.getElem?_map]
    exact congrArg (Option.map c.biome.toList.count) (Biome.ofCode?_code b)
  rw [hentry, ColumnField.count_toList]
  simp only [Biome.code_inj]

end Chunk

/-! ## The preview of a key -/

namespace Generator

variable (g : Generator) (key : ChunkKey)

/-- The preview of a key, with the columns in the given order. -/
def biomeFieldBy (order : UnitOrder area) (key : ChunkKey) :
    Except RequestError (ColumnField Biome) := do
  key.check
  let biomes ← runColumns order
    (fun i => pure
      ⟨(g.climate key).biomeAt ((g.ground key).columnPoint (columnX i) (columnZ i)), 0⟩)
    ⟨Vector.replicate _ .plain, 0⟩
  pure biomes.field

theorem biomeField_eq_by (schedule : Schedule) :
    g.biomeField schedule key = g.biomeFieldBy schedule.plan.columns key := rfl

variable {key}

theorem biomeFieldBy_of_not_inRange (order : UnitOrder area) (h : key.inRange = false) :
    g.biomeFieldBy order key = .error (.outOfRange key.x key.z) := by
  rw [biomeFieldBy, ChunkKey.check_of_not_inRange h]
  rfl

/-- The columns of the preview are those of the chunk, in every order. -/
theorem biomeFieldBy_of_inRange (order : UnitOrder area) (h : key.inRange = true) :
    g.biomeFieldBy order key = .ok (g.voxelwise key).biome := by
  have hcolumns : runColumns order
      (fun i => pure (f := Except RequestError)
        ⟨(g.climate key).biomeAt ((g.ground key).columnPoint (columnX i) (columnZ i)), 0⟩)
      ⟨Vector.replicate _ .plain, 0⟩ =
      .ok (.ofReadings (fun i => ⟨g.biomeAt key (columnX i) (columnZ i), 0⟩) 0) :=
    runColumns_eq_ok order (fun _ => rfl) _
  have hfield : (Filling.ofReadings (fun i : Fin area =>
      (⟨g.biomeAt key (columnX i) (columnZ i), 0⟩ : Reading Biome)) 0).field =
      (g.voxelwise key).biome := by
    change Vector.ofFn _ = (g.columnField key).map (·.biome)
    rw [columnField, Vector.map_ofFn]
    rfl
  rw [biomeFieldBy, ChunkKey.check_of_inRange h, hcolumns]
  exact congrArg Except.ok hfield

/-- The preview is what generation makes of the key, as far as biomes are concerned. -/
theorem biomeFieldBy_eq_run (order : UnitOrder area) (plan : Plan) :
    g.biomeFieldBy order key = (g.run plan key false).map (·.biome) := by
  cases h : key.inRange with
  | false => rw [g.biomeFieldBy_of_not_inRange order h, g.run_of_not_inRange plan h]; rfl
  | true => rw [g.biomeFieldBy_of_inRange order h, g.run_eq_voxelwise key plan h]; rfl

variable (key)

/-- The preview of a key under one schedule is the biome field of its chunk under any other, in
whatever order the columns are visited by either, and the same error if the key is not in range. In
range both are there; the codes of the preview are those of biomes, the checksum over them is the
checksum of the chunk, and the histogram of the chunk counts all 256 columns, each under its
code. -/
theorem biomeField_eq_generate :
    (∀ order plan, g.biomeFieldBy order key = (g.run plan key false).map (·.biome)) ∧
    (∀ first second, g.biomeField first key = (g.generate second key).map (·.biome)) ∧
    (key.inRange = false → ∀ schedule,
      g.biomeField schedule key = .error (.outOfRange key.x key.z) ∧
      g.generate schedule key = .error (.outOfRange key.x key.z)) ∧
    (key.inRange = true → ∃ (preview : ColumnField Biome) (c : Chunk), ∀ first second,
      g.biomeField first key = .ok preview ∧ g.generate second key = .ok c ∧ c.biome = preview ∧
      (∀ x z, Biome.ofCode? (preview.value x z).code = some (preview.value x z)) ∧
      Checksum.ofBytes key (preview.toList.map Biome.code) = c.checksum ∧
      c.biomeHistogram.sum = 256 ∧ c.biomeHistogram.length = Biome.all.length ∧
      ∀ b : Biome, c.biomeHistogram[b.code.toNat]? =
        some (Finset.univ.filter fun p : Fin width × Fin width =>
          (preview.value p.1 p.2).code = b.code).card) := by
  refine ⟨fun order plan => g.biomeFieldBy_eq_run order plan, fun first second => ?_,
    fun h schedule => ?_, fun h => ?_⟩
  · rw [biomeField_eq_by]
    exact g.biomeFieldBy_eq_run first.plan.columns second.plan
  · rw [biomeField_eq_by]
    exact ⟨g.biomeFieldBy_of_not_inRange schedule.plan.columns h,
      g.run_of_not_inRange schedule.plan h false⟩
  · refine ⟨(g.voxelwise key).biome, g.voxelwise key, fun first second => ?_⟩
    have hpreview := g.biomeFieldBy_of_inRange first.plan.columns h
    have hchunk := g.run_eq_voxelwise key second.plan h
    refine ⟨hpreview, hchunk, rfl, fun x z => Biome.ofCode?_code _, rfl,
      (g.voxelwise key).biomeHistogram_sum, (g.voxelwise key).biomeHistogram_length, ?_⟩
    exact (g.voxelwise key).biomeHistogram_code

/-- A key in range has a preview, and its neighbour out of range has the error instead. -/
theorem standard_biomeField_eq_generate :
    ((⟨-3, 134217726, 7, .nether⟩ : ChunkKey).inRange = true ∧
      ∃ preview c, standard.biomeField .reverse ⟨-3, 134217726, 7, .nether⟩ = .ok preview ∧
        standard.generate .parallel ⟨-3, 134217726, 7, .nether⟩ = .ok c ∧ c.biome = preview ∧
        c.biomeHistogram.sum = 256) ∧
    ((⟨-3, 134217727, 7, .nether⟩ : ChunkKey).inRange = false ∧
      standard.biomeField .reverse ⟨-3, 134217727, 7, .nether⟩ =
        .error (.outOfRange (-3) 134217727)) := by
  have hin : (⟨-3, 134217726, 7, .nether⟩ : ChunkKey).inRange = true := by decide
  have hout : (⟨-3, 134217727, 7, .nether⟩ : ChunkKey).inRange = false := by decide
  obtain ⟨-, -, -, hpresent⟩ := standard.biomeField_eq_generate ⟨-3, 134217726, 7, .nether⟩
  obtain ⟨-, -, hmissing, -⟩ := standard.biomeField_eq_generate ⟨-3, 134217727, 7, .nether⟩
  obtain ⟨preview, c, h⟩ := hpresent hin
  obtain ⟨hpreview, hchunk, hsame, -, -, hsum, -⟩ := h .reverse .parallel
  exact ⟨⟨hin, preview, c, hpreview, hchunk, hsame, hsum⟩, hout, (hmissing hout .reverse).1⟩

end Generator

end Landform
