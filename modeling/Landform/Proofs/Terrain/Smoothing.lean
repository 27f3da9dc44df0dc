import Landform.Proofs.Number.Order
import Landform.Proofs.Table.Accepted
import Landform.Table.Default
import Landform.Terrain.Ground
import Mathlib.Data.Finset.Card
import Mathlib.Data.Nat.Dist

/-! # Smoothing

A solid voxel is cleared if and only if too small a share of the voxels around it is solid, counting
those of the chunk that share a face with it. The limit from which a voxel is surely kept lies no
lower, so it decides nothing. More solid voxels make every share larger, so that they never clear
what has been kept without them. -/

namespace Landform

open Layout

/-! ## Voxels that share a face -/

section Beside

variable {n : Nat} (c : Fin n)

theorem mem_beside {c' : Fin n} : c' ∈ beside c ↔ Nat.dist c c' = 1 := by
  have hc' := c'.isLt
  unfold beside
  rw [List.mem_append]
  -- one of them is the number before, and the other one the number after
  have hbefore : c' ∈ (if 0 < c.val then [(⟨c.val - 1, by omega⟩ : Fin n)] else []) ↔
      c'.val + 1 = c.val := by
    split
    · rw [List.mem_singleton, Fin.ext_iff]
      change c'.val = c.val - 1 ↔ _
      omega
    · exact iff_of_false List.not_mem_nil (by omega)
  have hafter : c' ∈ (if h : c.val + 1 < n then [(⟨c.val + 1, h⟩ : Fin n)] else []) ↔
      c'.val = c.val + 1 := by
    split
    · rw [List.mem_singleton, Fin.ext_iff]
    · exact iff_of_false List.not_mem_nil (by omega)
  rw [hbefore, hafter, Nat.dist]
  omega

theorem self_notMem_beside : c ∉ beside c := by
  rw [mem_beside, Nat.dist_self]
  exact Nat.zero_ne_one

theorem nodup_beside : (beside c).Nodup := by
  unfold beside
  split <;> split <;> simp [Fin.ext_iff]

theorem beside_ne_nil (h : 2 ≤ n) : 1 ≤ (beside c).length := by
  have hc := c.isLt
  unfold beside
  rw [List.length_append]
  -- the first of at least two has one after it, any other has one before it
  by_cases hlow : 0 < c.val
  · rw [if_pos hlow]
    exact Nat.le_add_right 1 _
  · have hhigh : c.val + 1 < n := by omega
    rw [dif_pos hhigh]
    exact Nat.le_add_left 1 _

theorem length_beside_le : (beside c).length ≤ 2 := by
  unfold beside
  split <;> split <;> simp

end Beside

/-- The voxels that share a face with the given one. -/
def voxelsBeside (x : Fin width) (y : Fin height) (z : Fin width) : List (Fin volume) :=
  (beside x).map (voxel · y z) ++ (beside y).map (voxel x · z) ++ (beside z).map (voxel x y ·)

/-- How many steps it takes from one voxel to another, each through a face. -/
def steps (i j : Fin volume) : Nat :=
  Nat.dist (voxelX i) (voxelX j) + Nat.dist (voxelY i) (voxelY j) + Nat.dist (voxelZ i) (voxelZ j)

/-- The voxels of the chunk that share a face with the given one. -/
def adjacent (i : Fin volume) : Finset (Fin volume) := {j | steps i j = 1}

/-- Those of them that are solid. -/
def solidAdjacent (ground : VoxelField Material) (i : Fin volume) : Finset (Fin volume) :=
  {j ∈ adjacent i | ground.get j ≠ .air}

section Adjacent

variable (ground : VoxelField Material) (x : Fin width) (y : Fin height) (z : Fin width)

theorem mem_voxelsBeside {j : Fin volume} : j ∈ voxelsBeside x y z ↔ steps (voxel x y z) j = 1 := by
  unfold voxelsBeside steps
  simp only [List.mem_append, List.mem_map, mem_beside, voxelX_voxel, voxelY_voxel, voxelZ_voxel]
  constructor
  · rintro ((⟨x', hx, rfl⟩ | ⟨y', hy, rfl⟩) | ⟨z', hz, rfl⟩)
    · simp only [voxelX_voxel, voxelY_voxel, voxelZ_voxel, Nat.dist_self, hx]
    · simp only [voxelX_voxel, voxelY_voxel, voxelZ_voxel, Nat.dist_self, hy]
    · simp only [voxelX_voxel, voxelY_voxel, voxelZ_voxel, Nat.dist_self, hz]
  · intro hone
    -- one step goes along a single axis, and the other two coordinates stay
    have hsame {n : Nat} {c c' : Fin n} (h : Nat.dist c c' = 0) : c = c' :=
      Fin.ext (Nat.eq_of_dist_eq_zero h)
    have hj := voxel_coords j
    rcases Nat.eq_zero_or_pos (Nat.dist x (voxelX j)) with hx | hx
    · rw [← hsame hx] at hj
      rcases Nat.eq_zero_or_pos (Nat.dist y (voxelY j)) with hy | hy
      · rw [← hsame hy] at hj
        exact .inr ⟨voxelZ j, by omega, hj⟩
      · rw [← @hsame _ z (voxelZ j) (by omega)] at hj
        exact .inl (.inr ⟨voxelY j, by omega, hj⟩)
    · rw [← @hsame _ y (voxelY j) (by omega),
        ← @hsame _ z (voxelZ j) (by omega)] at hj
      exact .inl (.inl ⟨voxelX j, by omega, hj⟩)

theorem nodup_voxelsBeside : (voxelsBeside x y z).Nodup := by
  unfold voxelsBeside
  rw [List.nodup_append, List.nodup_append]
  refine ⟨⟨?_, ?_, ?_⟩, ?_, ?_⟩
  · exact (nodup_beside x).map (Function.LeftInverse.injective (g := voxelX) (voxelX_voxel · z y))
  · exact (nodup_beside y).map (Function.LeftInverse.injective (g := voxelY) (voxelY_voxel x z ·))
  · -- a step along x leaves the plane in which the steps along y stay
    intro i hi j hj hij
    obtain ⟨x', hx, rfl⟩ := List.mem_map.mp hi
    obtain ⟨y', -, rfl⟩ := List.mem_map.mp hj
    have hsame := congrArg voxelX hij
    rw [voxelX_voxel, voxelX_voxel] at hsame
    exact self_notMem_beside x (hsame ▸ hx)
  · exact (nodup_beside z).map (Function.LeftInverse.injective (g := voxelZ) (voxelZ_voxel x · y))
  · intro i hi j hj hij
    have hplane : voxelZ i = z := by
      rcases List.mem_append.mp hi with hi | hi
      · obtain ⟨x', -, rfl⟩ := List.mem_map.mp hi
        exact voxelZ_voxel ..
      · obtain ⟨y', -, rfl⟩ := List.mem_map.mp hi
        exact voxelZ_voxel ..
    obtain ⟨z', hz, rfl⟩ := List.mem_map.mp hj
    rw [hij, voxelZ_voxel] at hplane
    exact self_notMem_beside z (hplane ▸ hz)

theorem adjacent_eq_toFinset : adjacent (voxel x y z) = (voxelsBeside x y z).toFinset := by
  ext j
  rw [adjacent, Finset.mem_filter_univ, List.mem_toFinset, mem_voxelsBeside]

theorem neighbours_eq : neighbours ground x y z = (voxelsBeside x y z).map ground.get := by
  unfold neighbours voxelsBeside
  simp only [List.map_append, List.map_map]
  rfl

theorem length_neighbours :
    (neighbours ground x y z).length = (adjacent (voxel x y z)).card := by
  rw [adjacent_eq_toFinset, List.toFinset_card_of_nodup (nodup_voxelsBeside x y z), neighbours_eq,
    List.length_map]

theorem countP_neighbours :
    (neighbours ground x y z).countP (· != .air) = (solidAdjacent ground (voxel x y z)).card := by
  have hsolid : solidAdjacent ground (voxel x y z) =
      ((voxelsBeside x y z).filter fun j => ground.get j != .air).toFinset := by
    ext j
    simp only [solidAdjacent, adjacent_eq_toFinset, Finset.mem_filter, List.mem_toFinset,
      List.mem_filter, bne_iff_ne]
  rw [hsolid, List.toFinset_card_of_nodup ((nodup_voxelsBeside x y z).filter _),
    ← List.countP_eq_length_filter, neighbours_eq, List.countP_map]
  rfl

/-- A voxel has a neighbour along every axis, at the faces of the chunk as well. -/
theorem three_le_neighbours : 3 ≤ (neighbours ground x y z).length := by
  have hx := beside_ne_nil x (by decide)
  have hy := beside_ne_nil y (by decide)
  have hz := beside_ne_nil z (by decide)
  simp only [neighbours, List.length_append, List.length_map]
  omega

theorem neighbours_le_six : (neighbours ground x y z).length ≤ 6 := by
  have hx := length_beside_le x
  have hy := length_beside_le y
  have hz := length_beside_le z
  simp only [neighbours, List.length_append, List.length_map]
  omega

end Adjacent

/-! ## Clearing -/

namespace SmoothingTable

variable {α : Type} [Scalar α]

/-- The share of the voxels around a voxel that is solid. -/
def share (ground : VoxelField Material) (i : Fin volume) : α :=
  Scalar.ratio (solidAdjacent ground i).card (adjacent i).card

theorem solidFraction_eq (ground : VoxelField Material) (x : Fin width) (y : Fin height)
    (z : Fin width) : (solidFraction ground x y z : α) = share ground (voxel x y z) := by
  rw [solidFraction, countP_neighbours, length_neighbours]
  rfl

theorem check_eq_ok {s : SmoothingTable α} :
    s.check = .ok () ↔
      Scalar.isFinite s.clearBelow ∧ Scalar.isFinite s.keepAbove ∧ s.clearBelow ≤ s.keepAbove :=
  require_eq_ok

variable [Scalar.Ordered α] {s : SmoothingTable α} {ground ground' : VoxelField Material}
  {x : Fin width} {y : Fin height} {z : Fin width}

/-- The share decides by the limit for clearing alone. -/
theorem apply_eq (hs : s.clearBelow ≤ s.keepAbove) :
    s.apply ground x y z =
      if share ground (voxel x y z) < s.clearBelow then .air else ground.get (voxel x y z) := by
  change _ = if _ then Material.air else ground.value x y z
  unfold apply
  rw [solidFraction_eq]
  by_cases hair : ground.value x y z = .air
  · rw [if_pos hair, hair, ite_self]
  · rw [if_neg hair]
    by_cases hkeep : s.keepAbove < share ground (voxel x y z)
    · -- what is surely kept is not below the other limit
      have hclear : s.clearBelow < share ground (voxel x y z) :=
        Scalar.Ordered.lt_of_le_of_lt hs hkeep
      simp only [hkeep, Scalar.Ordered.lt_asymm hclear, if_true, if_false]
    · simp only [hkeep, if_false]

/-- More solid voxels are a larger share of those around a voxel. -/
theorem share_le_share (h : ∀ j, ground.get j ≠ .air → ground'.get j = ground.get j) :
    (share ground (voxel x y z) : α) ≤ share ground' (voxel x y z) := by
  have hsubset : solidAdjacent ground (voxel x y z) ⊆ solidAdjacent ground' (voxel x y z) := by
    intro j hj
    obtain ⟨hadjacent, hsolid⟩ := Finset.mem_filter.mp hj
    exact Finset.mem_filter.mpr ⟨hadjacent, h j hsolid ▸ hsolid⟩
  have hthree := three_le_neighbours ground x y z
  have hsix := neighbours_le_six ground x y z
  rw [length_neighbours] at hthree hsix
  exact Scalar.Ordered.ratio_le_ratio (Finset.card_le_card hsubset)
    (Finset.card_le_card (Finset.filter_subset _ _)) (by omega) hsix

/-- Under a table that passes its check, air stays air. Any other voxel is cleared if and only if
the solid ones are a smaller share of the three to six voxels around it than the limit for
clearing, and keeps its material otherwise. So tables with that limit in common do the same. A voxel
that is kept is kept as well when more of the chunk is solid. -/
theorem apply_of_check (hs : s.check = .ok ()) (ground : VoxelField Material) (x : Fin width)
    (y : Fin height) (z : Fin width) :
    let i := voxel x y z
    let total := (adjacent i).card
    let solid := (solidAdjacent ground i).card
    (3 ≤ total ∧ total ≤ 6) ∧
      (ground.get i = .air → s.apply ground x y z = .air) ∧
      (ground.get i ≠ .air →
        (s.apply ground x y z = .air ↔
          (Scalar.ofNat solid / Scalar.ofNat total : α) < s.clearBelow) ∧
        (s.apply ground x y z ≠ .air → s.apply ground x y z = ground.get i)) ∧
      (∀ s' : SmoothingTable α, s'.check = .ok () → s'.clearBelow = s.clearBelow →
        s'.apply ground x y z = s.apply ground x y z) ∧
      ∀ ground' : VoxelField Material,
        (∀ j, ground.get j ≠ .air → ground'.get j = ground.get j) →
          ground.get i ≠ .air → s.apply ground x y z ≠ .air →
            s.apply ground' x y z = ground.get i := by
  intro i total solid
  have hle := (check_eq_ok.mp hs).2.2
  have htotal : 3 ≤ total ∧ total ≤ 6 := by
    have hlength : (neighbours ground x y z).length = total := length_neighbours ground x y z
    rw [← hlength]
    exact ⟨three_le_neighbours ground x y z, neighbours_le_six ground x y z⟩
  have happly : s.apply ground x y z =
      if share ground i < s.clearBelow then .air else ground.get i := apply_eq hle
  refine ⟨htotal, ?_, ?_, ?_, ?_⟩
  · intro hair
    rw [happly, hair, ite_self]
  · intro hsolid
    change (_ ↔ share ground i < s.clearBelow) ∧ _
    rw [happly]
    split
    · exact ⟨iff_of_true rfl ‹_›, fun h => absurd rfl h⟩
    · exact ⟨iff_of_false hsolid ‹_›, fun _ => rfl⟩
  · intro s' hs' hclear
    rw [happly, apply_eq (check_eq_ok.mp hs').2.2, hclear]
  · intro ground' hmore hsolid hkept
    have hlarge : ¬share ground i < s.clearBelow := by
      intro hsmall
      exact hkept (by rw [happly, if_pos hsmall])
    have hlarger : ¬share ground' i < s.clearBelow := fun hsmall =>
      hlarge (Scalar.Ordered.lt_of_le_of_lt (share_le_share hmore) hsmall)
    rw [apply_eq hle, if_neg hlarger, hmore i hsolid]

/-- Bedrock in the corner of the chunk and next to it along x, and one more material elsewhere. -/
def cornerIn (m : Material) : VoxelField Material :=
  .ofFn fun j => if j = voxel 0 0 0 ∨ j = voxel 1 0 0 then .bedrock else m

theorem cornerIn_get (m : Material) (j : Fin volume) :
    (cornerIn m).get j = if j = voxel 0 0 0 ∨ j = voxel 1 0 0 then .bedrock else m :=
  Vector.getElem_ofFn j.isLt

/-- Of the three voxels around a corner one is solid. Under the default limit that is enough, and
more of them do no harm. Under a limit of two fifths it is not. -/
theorem apply_of_check_corner :
    let s : SmoothingTable Float := .default
    let strict : SmoothingTable ℚ := ⟨1 / 2, 2 / 5⟩
    (s.check = .ok () ∧ strict.check = .ok () ∧
        ∀ j, (cornerIn .air).get j ≠ .air → (cornerIn .stone).get j = (cornerIn .air).get j) ∧
      s.apply (cornerIn .air) 0 0 0 = .bedrock ∧ s.apply (cornerIn .stone) 0 0 0 = .bedrock ∧
      strict.apply (cornerIn .air) 0 0 0 = .air := by
  intro s strict
  have hs : s.check = .ok () := check_eq_ok_of_toBool (by decide +kernel)
  have hstrict : strict.check = .ok () := check_eq_ok_of_toBool (by decide +kernel)
  have hmore : ∀ j, (cornerIn .air).get j ≠ .air →
      (cornerIn .stone).get j = (cornerIn .air).get j := by
    intro j
    rw [cornerIn_get, cornerIn_get]
    split
    · exact fun _ => rfl
    · exact fun h => absurd rfl h
  have hcorner : (cornerIn .air).get (voxel 0 0 0) = .bedrock := by
    rw [cornerIn_get, if_pos (.inl rfl)]
  have hsolid : (cornerIn .air).get (voxel 0 0 0) ≠ .air := hcorner ▸ nofun
  have hone : (solidAdjacent (cornerIn .air) (voxel 0 0 0)).card = 1 := by
    rw [← countP_neighbours, neighbours_eq]
    simp only [funext (cornerIn_get .air)]
    decide
  have hthree : (adjacent (voxel 0 0 0)).card = 3 := by
    rw [← length_neighbours (cornerIn .air), neighbours_eq, List.length_map]
    decide
  obtain ⟨-, -, hdecides, -, hmonotone⟩ := apply_of_check hs (cornerIn .air) 0 0 0
  obtain ⟨-, -, hdecides', -, -⟩ := apply_of_check hstrict (cornerIn .air) 0 0 0
  rw [hone, hthree] at hdecides hdecides'
  have hkept : s.apply (cornerIn .air) 0 0 0 ≠ .air :=
    fun h => absurd ((hdecides hsolid).1.mp h) (by decide +kernel)
  exact ⟨⟨hs, hstrict, hmore⟩, ((hdecides hsolid).2 hkept).trans hcorner,
    (hmonotone _ hmore hsolid hkept).trans hcorner, (hdecides' hsolid).1.mpr (by decide +kernel)⟩

end SmoothingTable

end Landform
