import Landform.Proofs.Noise.Easing
import Landform.Proofs.Table.Accepted
import Landform.Terrain.Density

/-! # Carving

Carving multiplies the depth of a voxel by a factor from zero to one, and the ripple of the column
is added afterwards. Below the surface the product is at most the depth, so carving takes ground
away. Above the surface the depth is negative and the product is at least the depth: carving that
reaches up there, which a negative shell makes it do, can put ground where there was none. And what
is fully carved is left with the ripple alone, which may be positive. -/

namespace Landform

open scoped Scalar

section Parts

variable {α : Type} [Scalar α]

/-- The caves of a key. -/
def CaveCarving.caves (key : ChunkKey) (c : CaveCarving α) : Caves α :=
  ⟨.ofOctaves (channelSeed key.seed key.dimension c.salt) c.octaves c.frequency, c.innerEdge,
    c.outerEdge, c.surfaceShell, c.floor.toNat⟩

/-- Whether carving reaches a voxel of a column: not below the floor, and not less deep than the
shell. -/
structure Caves.Reaches (c : Caves α) (y : Nat) (height : α) : Prop where
  floor : c.floor ≤ y
  shell : ¬ height - Scalar.ofNat y < c.surfaceShell

namespace Ground

/-- The magnitude of the noise of caves at a local voxel. -/
def carvingAt (g : Ground α) (c : Caves α) (x y z : Nat) : α :=
  let p := g.voxelPoint x y z
  Scalar.abs (c.noise.sample3 p.x p.y p.z)

/-- The same ground without caves. -/
def uncarved (g : Ground α) : Ground α := { g with caves := none }

variable {g : Ground α} {c : Caves α} {x y z : Nat} {height : α}

theorem caveFactor_of_reaches (hc : g.caves = some c) (h : c.Reaches y height) :
    g.caveFactor x y z height =
      1 - Noise.smoothstep c.innerEdge c.outerEdge (g.carvingAt c x y z) := by
  unfold caveFactor
  rw [hc]
  exact if_neg (not_or.mpr ⟨Nat.not_lt.mpr h.floor, h.shell⟩)

theorem caveFactor_of_not_reaches (hc : g.caves = some c) (h : ¬ c.Reaches y height) :
    g.caveFactor x y z height = 1 := by
  unfold caveFactor
  rw [hc]
  refine if_pos (or_iff_not_imp_left.mpr fun hfloor => by_contra fun hshell => ?_)
  exact h ⟨Nat.not_lt.mp hfloor, hshell⟩

theorem caveFactor_of_none (hc : g.caves = none) : g.caveFactor x y z height = 1 := by
  unfold caveFactor
  rw [hc]

end Ground

end Parts

namespace Ground

/-! ## The factor -/

variable {g : Ground ℚ} {c : Caves ℚ} {x y z : Nat} {column : ColumnSample ℚ}

theorem caveFactor_nonneg (g : Ground ℚ) (x y z : Nat) (height : ℚ) :
    0 ≤ g.caveFactor x y z height := by
  cases hc : g.caves with
  | none =>
    rw [caveFactor_of_none hc]
    exact zero_le_one
  | some c =>
    by_cases hreach : c.Reaches y height
    · rw [caveFactor_of_reaches hc hreach]
      exact sub_nonneg.mpr Noise.smoothstep_le_one
    · rw [caveFactor_of_not_reaches hc hreach]
      exact zero_le_one

theorem caveFactor_le_one (g : Ground ℚ) (x y z : Nat) (height : ℚ) :
    g.caveFactor x y z height ≤ 1 := by
  cases hc : g.caves with
  | none => exact (caveFactor_of_none hc).le
  | some c =>
    by_cases hreach : c.Reaches y height
    · rw [caveFactor_of_reaches hc hreach]
      exact sub_le_self 1 Noise.smoothstep_nonneg
    · exact (caveFactor_of_not_reaches hc hreach).le

/-- From the outer edge on nothing is left of the depth. -/
theorem caveFactor_eq_zero (hc : g.caves = some c) (hedges : c.innerEdge < c.outerEdge)
    {height : ℚ} (hreach : c.Reaches y height) (h : c.outerEdge ≤ g.carvingAt c x y z) :
    g.caveFactor x y z height = 0 := by
  rw [caveFactor_of_reaches hc hreach, Noise.smoothstep_of_ge hedges h]
  exact sub_self 1

/-- What loses something of its depth is reached by noise above the inner edge. -/
theorem reaches_of_caveFactor_lt_one {height : ℚ} (h : g.caveFactor x y z height < 1) :
    ∃ c, g.caves = some c ∧ c.Reaches y height ∧
      (c.innerEdge < c.outerEdge → c.innerEdge < g.carvingAt c x y z) := by
  cases hc : g.caves with
  | none => exact absurd (caveFactor_of_none hc) h.ne
  | some c =>
    refine ⟨c, rfl, ?_⟩
    by_cases hreach : c.Reaches y height
    · refine ⟨hreach, fun hedges => not_le.mp fun hinner => h.ne ?_⟩
      rw [caveFactor_of_reaches hc hreach, Noise.smoothstep_of_le hedges hinner]
      exact sub_zero 1
    · exact absurd (caveFactor_of_not_reaches hc hreach) h.ne

/-! ## The density -/

theorem density_eq (g : Ground ℚ) (x y z : Nat) (column : ColumnSample ℚ) :
    g.density x y z column =
      if g.ceiling ≤ y then
        min ((column.height - y) * g.caveFactor x y z column.height + column.ripple) 0
      else (column.height - y) * g.caveFactor x y z column.height + column.ripple := by
  have hmin (d : ℚ) : (if d < 0 then d else 0) = min d 0 := by
    rw [min_def]
    rcases lt_trichotomy d 0 with h | h | h
    · rw [if_pos h, if_pos h.le]
    · rw [if_neg h.not_lt, if_pos h.le, h]
    · rw [if_neg h.not_gt, if_neg h.not_ge]
  rw [← hmin]
  rfl

theorem uncarved_density_eq (g : Ground ℚ) (x y z : Nat) (column : ColumnSample ℚ) :
    g.uncarved.density x y z column =
      if g.ceiling ≤ y then min (column.height - y + column.ripple) 0
      else column.height - y + column.ripple := by
  rw [density_eq, caveFactor_of_none rfl, mul_one]
  rfl

/-- A voxel is solid below the ceiling only. -/
theorem density_pos_iff :
    0 < g.density x y z column ↔
      y < g.ceiling ∧
        0 < (column.height - y) * g.caveFactor x y z column.height + column.ripple := by
  rw [density_eq]
  split
  · rename_i h
    exact iff_of_false (not_lt.mpr (min_le_right _ _)) fun hpos => absurd hpos.1 (by omega)
  · rename_i h
    exact (and_iff_right (Nat.lt_of_not_le h)).symm

theorem uncarved_density_pos_iff :
    0 < g.uncarved.density x y z column ↔
      y < g.ceiling ∧ 0 < column.height - y + column.ripple := by
  rw [density_pos_iff, caveFactor_of_none rfl, mul_one]
  rfl

/-- From the surface down carving does not raise a density. -/
theorem density_le_uncarved (h : 0 ≤ column.height - y) :
    g.density x y z column ≤ g.uncarved.density x y z column := by
  have hdepth : (column.height - y) * g.caveFactor x y z column.height ≤ column.height - y :=
    mul_le_of_le_one_right h (g.caveFactor_le_one ..)
  rw [density_eq, uncarved_density_eq]
  split
  · exact min_le_min_right 0 (by linarith)
  · linarith

/-- What is not reached keeps its density. -/
theorem density_eq_uncarved (h : g.caveFactor x y z column.height = 1) :
    g.density x y z column = g.uncarved.density x y z column := by
  rw [density_eq, uncarved_density_eq, h, mul_one]

/-- Ground that is there by carving only lies above the surface, in a column with a positive
ripple. -/
theorem caveFactor_lt_one_of_raised (hpos : 0 < g.density x y z column)
    (hnot : ¬ 0 < g.uncarved.density x y z column) :
    y < g.ceiling ∧ g.caveFactor x y z column.height < 1 ∧ column.height - y < 0 ∧
      0 < column.ripple := by
  obtain ⟨hceiling, hcarved⟩ := density_pos_iff.mp hpos
  have hplain : column.height - y + column.ripple ≤ 0 :=
    not_lt.mp fun h => hnot (uncarved_density_pos_iff.mpr ⟨hceiling, h⟩)
  have hfactor := g.caveFactor_nonneg x y z column.height
  have hdepth : column.height - y < 0 := by
    refine not_le.mp fun h => ?_
    exact absurd (hpos.trans_le (density_le_uncarved h)) hnot
  have hproduct := mul_nonpos_of_nonpos_of_nonneg hdepth.le hfactor
  refine ⟨hceiling, lt_of_le_of_ne (g.caveFactor_le_one ..) fun hone => ?_, hdepth, by linarith⟩
  rw [density_eq_uncarved hone] at hpos
  exact hnot hpos

/-! ## Accepted tables -/

theorem edges_of_check {t : Table ℚ} (ht : t.check = .ok ()) {key : ChunkKey} {c : Caves ℚ}
    (hc : (ofTable (t.dimension key.dimension) key).caves = some c) :
    c.innerEdge < c.outerEdge := by
  have hd := DimensionTable.check_eq_ok.mp ((Table.check_eq_ok.mp ht).1 key.dimension)
  obtain ⟨carving, hcarving, rfl⟩ := Option.map_eq_some_iff.mp hc
  have hcheck := hd.2.2.2.1
  rw [hcarving] at hcheck
  exact (CaveCarving.check_eq_ok.mp hcheck).2.1.2.2

/-- Under an accepted table carving does not raise a density where the voxel is not above the
surface, and nowhere if the shell is not negative, so that all ground is there without carving too.
With a negative shell a voxel can be ground by carving alone. Such a voxel lies above the surface,
but within the shell, the floor and the ceiling, the noise exceeds the inner edge there, and the
ripple of its column is positive. -/
theorem density_carved {t : Table ℚ} (ht : t.check = .ok ()) (key : ChunkKey) (x y z : Nat)
    (column : ColumnSample ℚ) :
    let d := t.dimension key.dimension
    let g := ofTable d key
    ((∀ c ∈ d.caves, 0 ≤ c.surfaceShell) ∨ 0 ≤ column.height - y →
      g.density x y z column ≤ g.uncarved.density x y z column) ∧
    ((∀ c ∈ d.caves, 0 ≤ c.surfaceShell) → 0 < g.density x y z column →
      0 < g.uncarved.density x y z column) ∧
    (0 < g.density x y z column → ¬ 0 < g.uncarved.density x y z column →
      ∃ c ∈ d.caves, c.floor.toNat ≤ y ∧ y < d.ceiling.toNat ∧
        c.surfaceShell ≤ column.height - y ∧ column.height - y < 0 ∧
        c.innerEdge < g.carvingAt (c.caves key) x y z ∧ 0 < column.ripple) := by
  intro d g
  have hlower (h : (∀ c ∈ d.caves, 0 ≤ c.surfaceShell) ∨ 0 ≤ column.height - y) :
      g.density x y z column ≤ g.uncarved.density x y z column := by
    by_cases hone : g.caveFactor x y z column.height = 1
    · exact (density_eq_uncarved hone).le
    · -- a shell that is not negative keeps carving below the surface
      refine density_le_uncarved (h.elim (fun hshell => ?_) id)
      obtain ⟨c, hc, hreach, -⟩ :=
        reaches_of_caveFactor_lt_one (lt_of_le_of_ne (g.caveFactor_le_one ..) hone)
      obtain ⟨carving, hcarving, rfl⟩ := Option.map_eq_some_iff.mp hc
      exact (hshell carving hcarving).trans (not_lt.mp hreach.shell)
  refine ⟨hlower, fun hshell hpos => hpos.trans_le (hlower (.inl hshell)), fun hpos hnot => ?_⟩
  obtain ⟨hceiling, hfactor, hdepth, hripple⟩ := caveFactor_lt_one_of_raised hpos hnot
  obtain ⟨c, hc, hreach, hnoise⟩ := reaches_of_caveFactor_lt_one hfactor
  have hedges := edges_of_check ht hc
  obtain ⟨carving, hcarving, rfl⟩ := Option.map_eq_some_iff.mp hc
  exact ⟨carving, hcarving, hreach.floor, hceiling, not_lt.mp hreach.shell, hdepth,
    hnoise hedges, hripple⟩

/-- In the default table the shell is four blocks deep. -/
theorem density_carved_default :
    (Table.default : Table ℚ).check = .ok () ∧
      let g := ofTable (DimensionTable.overworld : DimensionTable ℚ) ⟨0, 3, 12, .overworld⟩
      ∀ x y z column, 0 < g.density x y z column → 0 < g.uncarved.density x y z column := by
  refine ⟨Table.check_default_rat, fun x y z column => ?_⟩
  refine (density_carved Table.check_default_rat ⟨0, 3, 12, .overworld⟩ x y z column).2.1 ?_
  rintro c ⟨⟩
  exact Nat.cast_nonneg 4

/-- The default table, but for carving that begins four blocks above the surface. -/
def liftedTable : Table ℚ :=
  { (Table.default : Table ℚ) with
    overworld :=
      { (DimensionTable.overworld : DimensionTable ℚ) with
        caves :=
          some { (CaveCarving.default : CaveCarving ℚ) with surfaceShell := -4, salt := 0x13 } } }

/-- That table is accepted, and a voxel half a block above the surface, which is air without
carving, is solid: nothing is left of its depth, and the ripple is positive. -/
theorem liftedTable_raises :
    liftedTable.check = .ok () ∧ (⟨0, 3, 12, .overworld⟩ : ChunkKey).inRange = true ∧
      let g := ofTable liftedTable.overworld ⟨0, 3, 12, .overworld⟩
      let column : ColumnSample ℚ := ⟨29 / 2, 1 / 20⟩
      g.minHeight ≤ column.height ∧ column.height ≤ g.maxHeight ∧
        |column.ripple| ≤ g.ripple.amplitude ∧
        g.density 10 15 9 column = 1 / 20 ∧ g.uncarved.density 10 15 9 column = -9 / 20 := by
  have hcheck : liftedTable.check.toBool = true := by decide +kernel
  refine ⟨check_eq_ok_of_toBool hcheck, by decide, ?_⟩
  decide +kernel

end Ground

end Landform
