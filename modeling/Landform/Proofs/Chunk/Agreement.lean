import Landform.Proofs.Chunk.Voxelwise

/-! # Agreement of the fields of a chunk

A voxel goes through four hands: its density decides whether it is solid, the bands give a solid
voxel its ground, smoothing may clear it, and marks may be laid over what is left. None of them
gives a material to what is air, and the counters of a chunk count what the fields show. -/

namespace Landform

open Layout
open scoped Scalar

/-! ## Hand by hand -/

section Hands

variable {α : Type} [Scalar α]

theorem Material.ne_air_of_isGround {m : Material} (h : m.isGround = true) : m ≠ .air := by
  rintro rfl
  cases h

theorem Material.takesMarks_iff {m : Material} :
    m.takesMarks = true ↔ m.isGround = true ∧ m ≠ .bedrock := by
  rw [takesMarks, Bool.and_eq_true, bne_iff_ne]

theorem MaterialBands.isGround_material {b : MaterialBands α} {d : Dimension}
    (h : b.check d = .ok ()) (y : Nat) (depth : α) : (b.material y depth).isGround = true := by
  obtain ⟨hbands, hfill⟩ := isGround_of_check h
  unfold material
  cases hfind : b.bands.find? (·.covers (Int32.ofNat y) depth) with
  | none => exact hfill
  | some band => exact hbands band (List.mem_of_find?_eq_some hfind)

/-- With bands that pass their check, exactly the voxels that are not solid are air. -/
theorem MaterialBands.classify_eq_air_iff {b : MaterialBands α} {d : Dimension}
    (h : b.check d = .ok ()) (solid : Bool) (y : Nat) (depth : α) :
    b.classify solid y depth = .air ↔ solid = false := by
  unfold classify
  cases solid with
  | false => exact iff_of_true rfl rfl
  | true => exact iff_of_false (Material.ne_air_of_isGround (isGround_material h y depth)) nofun

/-- Smoothing keeps the material of a voxel or clears it. -/
theorem SmoothingTable.apply_eq_or_air (s : SmoothingTable α) (ground : VoxelField Material)
    (x : Fin width) (y : Fin height) (z : Fin width) :
    s.apply ground x y z = ground.value x y z ∨ s.apply ground x y z = .air := by
  unfold apply
  by_cases hair : ground.value x y z = .air
  · rw [if_pos hair]
    exact .inr rfl
  · rw [if_neg hair]
    dsimp only
    split
    · exact .inl rfl
    · split
      · exact .inr rfl
      · exact .inl rfl

theorem Marking.compose_of_not_takesMarks (k : Marking α) {ground : Material}
    (h : ground.takesMarks = false) (marks : Marks) (y : Nat) (depth : α) :
    k.compose ground marks y depth = ground :=
  if_neg (by rw [h]; exact Bool.false_ne_true)

end Hands

namespace Generator

variable (g : Generator) (key : ChunkKey)

/-! ## Voxel by voxel -/

section Voxels

variable (x : Fin width) (y : Fin height) (z : Fin width)

theorem groundField_value : (g.groundField key).value x y z = g.groundAt key x y z := by
  change (g.groundField key).get (voxel x y z) = _
  rw [groundField, ofFn_get, voxelX_voxel, voxelY_voxel, voxelZ_voxel]

theorem groundAt_eq_air_iff :
    g.groundAt key x y z = .air ↔ isSolid (g.densityAt key x y z) = false :=
  MaterialBands.classify_eq_air_iff (Table.bands_check g.checked key.dimension) _ _ _

/-- What is not cleared keeps its ground. -/
theorem smoothedAt_eq_or_air :
    g.smoothedAt key x y z = g.groundAt key x y z ∨ g.smoothedAt key x y z = .air := by
  rw [← g.groundField_value key x y z]
  exact g.table.smoothing.apply_eq_or_air (g.groundField key) x y z

theorem marksAt_of_not_takesMarks (h : (g.smoothedAt key x y z).takesMarks = false) :
    g.marksAt key x y z = 0 :=
  if_neg (by rw [h]; exact Bool.false_ne_true)

theorem materialAt_of_not_takesMarks (h : (g.smoothedAt key x y z).takesMarks = false) :
    g.materialAt key x y z = g.smoothedAt key x y z :=
  Marking.compose_of_not_takesMarks _ h _ _ _

variable {x y z}

theorem smoothedAt_of_groundAt_eq_air (h : g.groundAt key x y z = .air) :
    g.smoothedAt key x y z = .air := by
  rcases g.smoothedAt_eq_or_air key x y z with hsame | hair
  · rw [hsame, h]
  · exact hair

/-- What is air before smoothing ends as air without marks. -/
theorem air_of_groundAt_eq_air (h : g.groundAt key x y z = .air) :
    g.materialAt key x y z = .air ∧ g.marksAt key x y z = 0 := by
  have hair := g.smoothedAt_of_groundAt_eq_air key h
  have hnone : (g.smoothedAt key x y z).takesMarks = false := by rw [hair]; rfl
  refine ⟨?_, g.marksAt_of_not_takesMarks key x y z hnone⟩
  rw [g.materialAt_of_not_takesMarks key x y z hnone, hair]

/-- A marked voxel has taken marks, and it was the same ground before smoothing. -/
theorem takesMarks_of_marksAt_ne_zero (h : g.marksAt key x y z ≠ 0) :
    (g.smoothedAt key x y z).takesMarks = true ∧
      g.groundAt key x y z = g.smoothedAt key x y z := by
  have htakes : (g.smoothedAt key x y z).takesMarks = true := by
    by_contra hnot
    exact h (g.marksAt_of_not_takesMarks key x y z (Bool.eq_false_iff.mpr hnot))
  refine ⟨htakes, ?_⟩
  rcases g.smoothedAt_eq_or_air key x y z with hsame | hair
  · exact hsame.symm
  · rw [hair] at htakes
    cases htakes

end Voxels

/-! ## Counters -/

theorem countP_ofFn {β : Type} {n : Nat} (f : Fin n → β) (p : β → Bool) :
    (Vector.ofFn f).countP p = (List.finRange n).countP fun i => p (f i) := by
  rw [← Vector.countP_toList, Vector.toList_ofFn, List.ofFn_eq_map, List.countP_map]
  rfl

/-- Where one property implies another, what has the second is what has the first and the rest. -/
theorem countP_split {β : Type} {l : List β} {p q : β → Bool} (h : ∀ b ∈ l, p b → q b) :
    l.countP q = l.countP p + l.countP fun b => q b && !p b := by
  rw [List.countP_eq_countP_filter_add l q p, List.countP_filter, List.countP_filter]
  refine congrArg (· + _) (List.countP_congr fun b hb => ?_)
  rw [Bool.and_eq_true]
  exact and_iff_right_of_imp (h b hb)

/-- The number of the voxels of a chunk that have a property. -/
def voxelCount (p : Fin width → Fin height → Fin width → Bool) : Nat :=
  (List.finRange volume).countP fun i => p (voxelX i) (voxelY i) (voxelZ i)

theorem countP_ofFn_voxel {β : Type} (f : Fin width → Fin height → Fin width → β) (p : β → Bool) :
    (Vector.ofFn fun i : Fin volume => f (voxelX i) (voxelY i) (voxelZ i)).countP p =
      voxelCount fun x y z => p (f x y z) := by
  rw [countP_ofFn, voxelCount]

theorem voxelCount_congr {p q : Fin width → Fin height → Fin width → Bool}
    (h : ∀ x y z, p x y z = q x y z) : voxelCount p = voxelCount q := by
  simp only [voxelCount, h]

theorem voxelCount_add_not (p : Fin width → Fin height → Fin width → Bool) :
    voxelCount p + (voxelCount fun x y z => !p x y z) = volume := by
  have htotal := List.length_eq_countP_add_countP (l := List.finRange volume)
    fun i => p (voxelX i) (voxelY i) (voxelZ i)
  simp only [List.length_finRange, Bool.not_eq_true, Bool.decide_eq_false] at htotal
  exact htotal.symm

theorem voxelCount_split {p q : Fin width → Fin height → Fin width → Bool}
    (h : ∀ x y z, p x y z → q x y z) :
    voxelCount q = voxelCount p + voxelCount fun x y z => q x y z && !p x y z :=
  countP_split fun _ _ => h _ _ _

/-- The solid counter counts the voxels with ground. -/
theorem voxelwise_solid :
    (g.voxelwise key).diagnostics.solid = voxelCount fun x y z => g.groundAt key x y z != .air := by
  dsimp only [voxelwise, Diagnostics.ofFields]
  rw [groundField, countP_ofFn_voxel (g.groundAt key)]

/-- The smoothing counter counts the voxels that have ground and end as air. -/
theorem voxelwise_smoothed :
    (g.voxelwise key).diagnostics.smoothed =
      voxelCount fun x y z => g.groundAt key x y z != .air && g.materialAt key x y z == .air := by
  have hzip : (g.groundField key).zip (g.finalField key) =
      .ofFn fun i => (g.groundAt key (voxelX i) (voxelY i) (voxelZ i),
        g.materialAt key (voxelX i) (voxelY i) (voxelZ i),
        g.marksAt key (voxelX i) (voxelY i) (voxelZ i)) := by
    refine Vector.ext fun i hi => ?_
    rw [groundField, finalField, Vector.getElem_zip, Vector.getElem_ofFn, Vector.getElem_ofFn,
      Vector.getElem_ofFn]
  dsimp only [voxelwise, Diagnostics.ofFields]
  rw [hzip, countP_ofFn_voxel fun x y z =>
    (g.groundAt key x y z, g.materialAt key x y z, g.marksAt key x y z)]

theorem voxelwise_countP_density (p : Float32 → Bool) :
    (g.voxelwise key).density.countP p = voxelCount fun x y z => p (g.densityAt key x y z) := by
  dsimp only [voxelwise]
  rw [densityField, countP_ofFn_voxel (g.densityAt key)]

theorem voxelwise_countP_material (p : Material → Bool) :
    (g.voxelwise key).material.countP p = voxelCount fun x y z => p (g.materialAt key x y z) := by
  dsimp only [voxelwise]
  rw [Vector.countP_map, finalField,
    countP_ofFn_voxel fun x y z => (g.materialAt key x y z, g.marksAt key x y z)]
  simp only [Function.comp_apply]

/-- As many voxels are counted as solid as have a positive density. -/
theorem voxelwise_solid_eq_positive :
    (g.voxelwise key).diagnostics.solid =
      (g.voxelwise key).density.countP fun d => !decide (d ≤ 0) && !d.isNaN := by
  rw [voxelwise_solid, voxelwise_countP_density]
  refine voxelCount_congr fun x y z => ?_
  have hiff := g.groundAt_eq_air_iff key x y z
  have hsolid : isSolid (g.densityAt key x y z) =
      (!decide (g.densityAt key x y z ≤ 0) && !(g.densityAt key x y z).isNaN) := Bool.not_or ..
  rw [← hsolid]
  cases hs : isSolid (g.densityAt key x y z) with
  | false =>
    rw [hiff.mpr hs]
    rfl
  | true =>
    refine bne_iff_ne.mpr fun hair => ?_
    rw [hiff.mp hair] at hs
    cases hs

/-- The air of a chunk is what was never solid, and what the smoothing counter counts. -/
theorem voxelwise_air :
    (g.voxelwise key).material.countP (· == .air) + (g.voxelwise key).diagnostics.solid =
      volume + (g.voxelwise key).diagnostics.smoothed := by
  -- What was never solid ends as air, so the rest of the air was solid before.
  have hsplit := voxelCount_split (p := fun x y z => g.groundAt key x y z == .air)
    (q := fun x y z => g.materialAt key x y z == .air) fun x y z hground => by
      rw [beq_iff_eq] at hground ⊢
      exact (g.air_of_groundAt_eq_air key hground).1
  have hcleared : (voxelCount fun x y z =>
        g.materialAt key x y z == .air && !(g.groundAt key x y z == .air)) =
      (g.voxelwise key).diagnostics.smoothed := by
    rw [voxelwise_smoothed]
    exact voxelCount_congr fun x y z => Bool.and_comm ..
  have htotal : (voxelCount fun x y z => g.groundAt key x y z == .air) +
      (g.voxelwise key).diagnostics.solid = volume := by
    rw [voxelwise_solid]
    exact voxelCount_add_not _
  rw [voxelwise_countP_material, hsplit, hcleared, ← htotal]
  omega

/-! ## The fields together -/

/-- The fields and the counters of the chunk of a key in range agree, under every schedule and in
every order of the units: a voxel whose density is not positive is air without marks; as many voxels
are counted as solid as have a positive density; the air of the chunk is what is not solid and what
smoothing is counted to have cleared; marked voxels were the same ground before and after smoothing,
and no bedrock; and bedrock that is not cleared stays bedrock without marks. -/
theorem fields_agree (h : key.inRange = true) :
    ∃ c : Chunk,
      (∀ plan, g.run plan key false = .ok c) ∧ (∀ schedule, g.generate schedule key = .ok c) ∧
      (∀ x y z, c.density.value x y z ≤ 0 →
        c.material.value x y z = .air ∧ c.marks.value x y z = 0) ∧
      c.diagnostics.solid = c.density.countP (fun d => !decide (d ≤ 0) && !d.isNaN) ∧
      c.material.countP (· == .air) + c.diagnostics.solid = 98304 + c.diagnostics.smoothed ∧
      (∀ x y z, c.marks.value x y z ≠ 0 →
        g.groundAt key x y z = g.smoothedAt key x y z ∧
          (g.smoothedAt key x y z).isGround = true ∧ g.smoothedAt key x y z ≠ .bedrock) ∧
      (∀ x y z, g.groundAt key x y z = .bedrock → g.smoothedAt key x y z = .bedrock →
        c.material.value x y z = .bedrock ∧ c.marks.value x y z = 0) := by
  refine ⟨g.voxelwise key, fun plan => g.run_eq_voxelwise key plan h,
    fun schedule => g.run_eq_voxelwise key schedule.plan h, ?_,
    g.voxelwise_solid_eq_positive key, g.voxelwise_air key, ?_, ?_⟩
  · intro x y z hdensity
    rw [voxelwise_density] at hdensity
    rw [voxelwise_material, voxelwise_marks]
    refine g.air_of_groundAt_eq_air key ((g.groundAt_eq_air_iff key x y z).mpr ?_)
    rw [isSolid, decide_eq_true hdensity, Bool.true_or, Bool.not_true]
  · intro x y z hmarks
    rw [voxelwise_marks] at hmarks
    obtain ⟨htakes, hground⟩ := g.takesMarks_of_marksAt_ne_zero key hmarks
    exact ⟨hground, Material.takesMarks_iff.mp htakes⟩
  · intro x y z _ hbedrock
    have hnone : (g.smoothedAt key x y z).takesMarks = false := by
      rw [hbedrock]
      rfl
    rw [voxelwise_material, voxelwise_marks]
    refine ⟨?_, g.marksAt_of_not_takesMarks key x y z hnone⟩
    rw [g.materialAt_of_not_takesMarks key x y z hnone, hbedrock]

/-- A chunk of the default table. -/
theorem standard_fields_agree :
    (⟨3, -7, 11, .overworld⟩ : ChunkKey).inRange = true ∧
      ∃ c : Chunk, standard.generate .parallel ⟨3, -7, 11, .overworld⟩ = .ok c ∧
        (∀ x y z, c.density.value x y z ≤ 0 →
          c.material.value x y z = .air ∧ c.marks.value x y z = 0) ∧
        c.material.countP (· == .air) + c.diagnostics.solid = 98304 + c.diagnostics.smoothed := by
  have h : (⟨3, -7, 11, .overworld⟩ : ChunkKey).inRange = true := by decide
  obtain ⟨c, -, hgenerate, hair, -, hcount, -⟩ := standard.fields_agree _ h
  exact ⟨h, c, hgenerate .parallel, hair, hcount⟩

end Generator

end Landform
