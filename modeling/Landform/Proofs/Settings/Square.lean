import Landform.Proofs.Request.Range
import Landform.Settings.Square
import Mathlib.Data.List.Nodup

/-! # The chunks of a square

Every place of a square around a center has a key of its own. A walk along all rows, one after the
other, is a walk over the places as they are counted row by row, and it ends early where a key is
out of range. No key lies further out than those at the corners, so the center and the radius tell
whether the walk comes to its end. -/

namespace Landform

namespace RunSettings

open ChunkKey

/-! ## One place -/

/-- There are chunks so far away from a coordinate of the center. -/
def Reaches (center : Int32) (offset : Int) : Prop :=
  -limit.toInt ≤ center.toInt + offset ∧ center.toInt + offset < limit.toInt

/-- How far a place is from the center along x. -/
def offsetX (r : RunSettings) (place : Nat) : Int := (place % r.side : Nat) - r.radius.toNat

/-- How far a place is from the center along z. -/
def offsetZ (r : RunSettings) (place : Nat) : Int := (place / r.side : Nat) - r.radius.toNat

/-- The key that belongs to a place. -/
def keyOf (r : RunSettings) (dimension : Dimension) (place : Nat) : ChunkKey :=
  ⟨Int32.ofInt (r.centerX.toInt + r.offsetX place), Int32.ofInt (r.centerZ.toInt + r.offsetZ place),
    r.seed, dimension⟩

section Place

variable (r : RunSettings) (dimension : Dimension) (place : Nat)

theorem toInt_ofInt_of_reaches {center : Int32} {offset : Int} (h : Reaches center offset) :
    (Int32.ofInt (center.toInt + offset)).toInt = center.toInt + offset := by
  unfold Reaches at h
  rw [limit_toInt] at h
  exact Int32.toInt_ofInt_of_le (by omega) (by omega)

/-- A coordinate is the sum, or the sum is too large for one. -/
theorem coordinate_cases (center : Int32) (offset : Int) :
    (∃ c, r.coordinate center offset = .ok c ∧ c.toInt = center.toInt + offset) ∨
      (¬Reaches center offset ∧
        r.coordinate center offset = .error (.outOfRange r.centerX r.centerZ)) := by
  by_cases h : -0x80000000 ≤ center.toInt + offset ∧ center.toInt + offset ≤ 0x7FFFFFFF
  · have hcheck : Text.WholeRange.int32.check (center.toInt + offset) =
        some (center.toInt + offset) := if_pos h
    refine .inl ⟨Int32.ofInt (center.toInt + offset), ?_, ?_⟩
    · simp only [coordinate, hcheck]
    · exact Int32.toInt_ofInt_of_le (by omega) (by omega)
  · have hcheck : Text.WholeRange.int32.check (center.toInt + offset) = none := if_neg h
    refine .inr ⟨fun hreaches => h ?_, ?_⟩
    · unfold Reaches at hreaches
      rw [limit_toInt] at hreaches
      omega
    · simp only [coordinate, hcheck]

/-- A place has its key if both coordinates are those of chunks, and otherwise it has none. -/
theorem keyAt_cases :
    (Reaches r.centerX (r.offsetX place) ∧ Reaches r.centerZ (r.offsetZ place) ∧
      r.keyAt dimension (r.offsetX place) (r.offsetZ place) = .ok (r.keyOf dimension place)) ∨
    (¬(Reaches r.centerX (r.offsetX place) ∧ Reaches r.centerZ (r.offsetZ place)) ∧
      ∃ x z, r.keyAt dimension (r.offsetX place) (r.offsetZ place) =
        .error (.outOfRange x z)) := by
  rcases r.coordinate_cases r.centerX (r.offsetX place) with ⟨x, hx, hxsum⟩ | ⟨hx, herror⟩
  · rcases r.coordinate_cases r.centerZ (r.offsetZ place) with ⟨z, hz, hzsum⟩ | ⟨hz, herror⟩
    · have hkey : r.keyOf dimension place = ⟨x, z, r.seed, dimension⟩ := by
        rw [keyOf, ← hxsum, ← hzsum, Int32.ofInt_toInt, Int32.ofInt_toInt]
      have hrange : inRange ⟨x, z, r.seed, dimension⟩ = true ↔
          Reaches r.centerX (r.offsetX place) ∧ Reaches r.centerZ (r.offsetZ place) := by
        rw [inRange, Bool.and_eq_true, coordinateInRange_iff, coordinateInRange_iff, hxsum, hzsum]
        rfl
      rw [keyAt, hx, hz, hkey]
      -- Both sums are numbers of 32 bits. The key is checked once more against the range of chunks.
      cases hin : inRange ⟨x, z, r.seed, dimension⟩ with
      | true =>
        have hcheck : check ⟨x, z, r.seed, dimension⟩ = .ok () := check_of_inRange hin
        refine .inl ⟨(hrange.mp hin).1, (hrange.mp hin).2, ?_⟩
        simp only [hcheck, bind, Except.bind, pure, Except.pure]
      | false =>
        have hcheck : check ⟨x, z, r.seed, dimension⟩ = .error (.outOfRange x z) :=
          check_of_not_inRange hin
        refine .inr ⟨fun hboth => ?_, x, z, ?_⟩
        · rw [hrange.mpr hboth] at hin
          cases hin
        · simp only [hcheck, bind, Except.bind]
    · refine .inr ⟨fun hboth => hz hboth.2, ?_⟩
      rw [keyAt, hx, herror]
      exact ⟨_, _, rfl⟩
  · refine .inr ⟨fun hboth => hx hboth.1, ?_⟩
    rw [keyAt, herror]
    exact ⟨_, _, rfl⟩

end Place

/-! ## Rows one after the other -/

section Rows

variable {σ ε : Type}

theorem walk_eq_foldlM (step : Int → σ → Except ε σ) (count : Nat) (first : Int) (s : σ) :
    walk step count first s =
      (List.range count).foldlM (fun s (n : Nat) => step (first + n) s) s := by
  induction count generalizing first s with
  | zero => rfl
  | succ count ih =>
    rw [walk, List.range_succ_eq_map, List.foldlM_cons, Int.natCast_zero, Int.add_zero]
    cases step first s with
    | error e => rfl
    | ok s =>
      have hshift (n : Nat) : first + (n.succ : Nat) = first + 1 + n := by omega
      change walk step count (first + 1) s = List.foldlM _ s ((List.range count).map Nat.succ)
      simp only [List.foldlM_map, ih, hshift]

theorem foldlM_flatMap {ι κ : Type} (l : List ι) (f : ι → List κ) (step : σ → κ → Except ε σ)
    (s : σ) :
    (l.flatMap f).foldlM step s = l.foldlM (fun s i => (f i).foldlM step s) s := by
  induction l generalizing s with
  | nil => rfl
  | cons i l ih => simp only [List.flatMap_cons, List.foldlM_append, List.foldlM_cons, ih]

/-- The row and the column of a place. -/
theorem div_mod_place {x z side : Nat} (hx : x < side) :
    (z * side + x) / side = z ∧ (z * side + x) % side = x := by
  rw [Nat.mul_comm, Nat.mul_add_mod, Nat.mod_eq_of_lt hx, Nat.mul_add_div (Nat.zero_lt_of_lt hx),
    Nat.div_eq_of_lt hx, Nat.add_zero]
  exact ⟨rfl, rfl⟩

/-- The rows and columns of all places, as the places are counted. -/
theorem flatMap_rows (rows side : Nat) :
    (List.range rows).flatMap (fun z => (List.range side).map fun x => (z, x)) =
      (List.range (rows * side)).map fun place => (place / side, place % side) := by
  induction rows with
  | zero =>
    rw [Nat.zero_mul]
    rfl
  | succ rows ih =>
    rw [List.range_succ, List.flatMap_append, ih, List.flatMap_singleton, Nat.succ_mul,
      List.range_add, List.map_append, List.map_map]
    refine congrArg (_ ++ ·) (List.map_congr_left fun x hx => ?_)
    obtain ⟨hrow, hcolumn⟩ := div_mod_place (z := rows) (List.mem_range.mp hx)
    rw [Function.comp_apply, hrow, hcolumn]

end Rows

/-! ## All places -/

section Walk

variable {r : RunSettings} {dimension : Dimension} {places : List Nat} {done : List ChunkKey}

/-- The key of a place, after those that are there already. -/
def addPlace (r : RunSettings) (dimension : Dimension) (done : List ChunkKey) (place : Nat) :
    Except RequestError (List ChunkKey) :=
  r.addKey dimension (r.offsetZ place) (r.offsetX place) done

/-- The walk along all rows is a walk over all places. -/
theorem walk_rows (r : RunSettings) (dimension : Dimension) :
    walk (fun dz => walk (r.addKey dimension dz) r.side (-r.radius.toNat)) r.side
        (-r.radius.toNat) [] =
      (List.range (r.side * r.side)).foldlM (r.addPlace dimension) [] := by
  have hplace (done : List ChunkKey) (place : Nat) :
      r.addKey dimension (-r.radius.toNat + (place / r.side : Nat))
        (-r.radius.toNat + (place % r.side : Nat)) done = r.addPlace dimension done place := by
    rw [addPlace, offsetZ, offsetX, Int.add_comm, Int.add_comm (-r.radius.toNat : Int)]
    rfl
  have hplaces := foldlM_flatMap (List.range r.side)
    (fun z => (List.range r.side).map fun x => (z, x))
    (fun done p => r.addKey dimension (-r.radius.toNat + (p.1 : Nat))
      (-r.radius.toNat + (p.2 : Nat)) done) []
  simp only [flatMap_rows, List.foldlM_map, hplace] at hplaces
  simp only [hplaces, walk_eq_foldlM]

/-- The walk gives the keys of all its places if each of them has one. -/
theorem addPlaces_of_keyAt
    (h : ∀ place ∈ places, r.keyAt dimension (r.offsetX place) (r.offsetZ place) =
      .ok (r.keyOf dimension place)) :
    places.foldlM (r.addPlace dimension) done =
      .ok ((places.map (r.keyOf dimension)).reverse ++ done) := by
  induction places generalizing done with
  | nil => rfl
  | cons place places ih =>
    obtain ⟨hfirst, hrest⟩ := List.forall_mem_cons.mp h
    rw [List.foldlM_cons, addPlace, addKey, hfirst, List.map_cons, List.reverse_cons,
      List.append_assoc]
    exact ih hrest

/-- The walk ends with an error if some place has no key. -/
theorem addPlaces_of_not_keyAt {place : Nat} (hplace : place ∈ places)
    (h : ¬(Reaches r.centerX (r.offsetX place) ∧ Reaches r.centerZ (r.offsetZ place))) :
    ∃ x z, places.foldlM (r.addPlace dimension) done = .error (.outOfRange x z) := by
  induction places generalizing done with
  | nil => cases hplace
  | cons first places ih =>
    rw [List.foldlM_cons, addPlace, addKey]
    rcases r.keyAt_cases dimension first with ⟨hx, hz, hkey⟩ | ⟨-, x, z, herror⟩
    · -- The place without a key is a later one.
      rw [hkey]
      rcases List.mem_cons.mp hplace with rfl | hplace
      · exact absurd ⟨hx, hz⟩ h
      · exact ih hplace
    · rw [herror]
      exact ⟨x, z, rfl⟩

end Walk

/-- There are chunks all around a coordinate of the center, up to the radius. -/
def Fits (r : RunSettings) (center : Int32) : Prop :=
  -limit.toInt ≤ center.toInt - r.radius.toNat ∧ center.toInt + r.radius.toNat < limit.toInt

section Square

variable {r : RunSettings} {place x z : Nat}

theorem side_pos : 0 < r.side := Nat.succ_pos _

theorem offset_bounds (hplace : place < r.side * r.side) :
    (-r.radius.toNat ≤ r.offsetX place ∧ r.offsetX place ≤ r.radius.toNat) ∧
      -r.radius.toNat ≤ r.offsetZ place ∧ r.offsetZ place ≤ r.radius.toNat := by
  have hx : place % r.side < r.side := Nat.mod_lt _ side_pos
  have hz : place / r.side < r.side := Nat.div_lt_of_lt_mul hplace
  unfold offsetX offsetZ
  generalize place % r.side = column at hx ⊢
  generalize place / r.side = row at hz ⊢
  unfold side at hx hz
  omega

theorem reaches_of_fits {center : Int32} {offset : Int} (h : r.Fits center)
    (hlo : -r.radius.toNat ≤ offset) (hhi : offset ≤ r.radius.toNat) : Reaches center offset := by
  unfold Fits at h
  unfold Reaches
  omega

/-- The place of a row and a column. -/
theorem offset_of_row (hx : x < r.side) :
    r.offsetX (z * r.side + x) = x - r.radius.toNat ∧
      r.offsetZ (z * r.side + x) = z - r.radius.toNat := by
  unfold offsetX offsetZ
  obtain ⟨hrow, hcolumn⟩ := div_mod_place (z := z) hx
  rw [hrow, hcolumn]
  exact ⟨rfl, rfl⟩

theorem row_lt (hx : x < r.side) (hz : z < r.side) : z * r.side + x < r.side * r.side := by
  calc z * r.side + x < z * r.side + r.side := Nat.add_lt_add_left hx _
    _ = (z + 1) * r.side := (Nat.succ_mul ..).symm
    _ ≤ r.side * r.side := Nat.mul_le_mul_right _ hz

variable {dimension : Dimension}

/-- There is a key everywhere if there is one at the corners. -/
theorem addPlaces_of_fits (hx : r.Fits r.centerX) (hz : r.Fits r.centerZ) :
    (List.range (r.side * r.side)).foldlM (r.addPlace dimension) [] =
      .ok ((List.range (r.side * r.side)).map (r.keyOf dimension)).reverse := by
  rw [addPlaces_of_keyAt, List.append_nil]
  intro place hplace
  obtain ⟨⟨hlowX, hhighX⟩, hlowZ, hhighZ⟩ := offset_bounds (List.mem_range.mp hplace)
  rcases r.keyAt_cases dimension place with ⟨-, -, hkey⟩ | ⟨hnone, -⟩
  · exact hkey
  · exact absurd ⟨reaches_of_fits hx hlowX hhighX, reaches_of_fits hz hlowZ hhighZ⟩ hnone

/-- The first and the last place are the corners with the least and the greatest coordinates. -/
theorem addPlaces_of_not_fits (dimension : Dimension)
    (h : ¬(r.Fits r.centerX ∧ r.Fits r.centerZ)) :
    ∃ x z, (List.range (r.side * r.side)).foldlM (r.addPlace dimension) [] =
      .error (.outOfRange x z) := by
  have hlast : 2 * r.radius.toNat < r.side := Nat.lt_succ_self _
  have hleast := offset_of_row (r := r) (z := 0) side_pos
  have hgreatest := offset_of_row (r := r) (z := 2 * r.radius.toNat) hlast
  by_cases hfirst : Reaches r.centerX (r.offsetX (0 * r.side + 0)) ∧
      Reaches r.centerZ (r.offsetZ (0 * r.side + 0))
  · -- If both corners had keys, the radius would fit on all four sides.
    refine addPlaces_of_not_keyAt (List.mem_range.mpr (row_lt hlast hlast)) fun hlargest => h ?_
    rw [hleast.1, hleast.2] at hfirst
    rw [hgreatest.1, hgreatest.2] at hlargest
    unfold Reaches at hfirst hlargest
    unfold Fits
    push_cast at hfirst hlargest
    omega
  · exact addPlaces_of_not_keyAt (List.mem_range.mpr (row_lt side_pos side_pos)) hfirst

/-- The offsets of a place tell which place it is. -/
theorem place_of_offset (place : Nat) :
    (r.offsetZ place + r.radius.toNat) * r.side + (r.offsetX place + r.radius.toNat) = place := by
  have hdivision := Nat.div_add_mod place r.side
  unfold offsetX offsetZ
  rw [Int.sub_add_cancel, Int.sub_add_cancel, Int.mul_comm]
  exact_mod_cast hdivision

/-- The coordinates of a key are those of its place. -/
theorem keyOf_coordinates (dimension : Dimension) (hx : r.Fits r.centerX)
    (hz : r.Fits r.centerZ) (hplace : place < r.side * r.side) :
    (r.keyOf dimension place).x.toInt = r.centerX.toInt + r.offsetX place ∧
      (r.keyOf dimension place).z.toInt = r.centerZ.toInt + r.offsetZ place := by
  obtain ⟨⟨hlowX, hhighX⟩, hlowZ, hhighZ⟩ := offset_bounds hplace
  exact ⟨toInt_ofInt_of_reaches (reaches_of_fits hx hlowX hhighX),
    toInt_ofInt_of_reaches (reaches_of_fits hz hlowZ hhighZ)⟩

/-- So many columns and rows away from the center, there is a place, and this is where it comes. -/
theorem exists_place {dx dz : Int} (hlowX : -r.radius.toNat ≤ dx) (hhighX : dx ≤ r.radius.toNat)
    (hlowZ : -r.radius.toNat ≤ dz) (hhighZ : dz ≤ r.radius.toNat) :
    ∃ place < r.side * r.side, r.offsetX place = dx ∧ r.offsetZ place = dz ∧
      ((dz + r.radius.toNat) * (2 * r.radius.toNat + 1) + (dx + r.radius.toNat)).toNat = place := by
  obtain ⟨column, hcolumn⟩ : ∃ column : Nat, dx + r.radius.toNat = column :=
    Int.eq_ofNat_of_zero_le (by omega)
  obtain ⟨row, hrow⟩ : ∃ row : Nat, dz + r.radius.toNat = row :=
    Int.eq_ofNat_of_zero_le (by omega)
  have hcolumn' : column < r.side := by
    unfold side
    omega
  have hrow' : row < r.side := by
    unfold side
    omega
  obtain ⟨hoffsetX, hoffsetZ⟩ := offset_of_row (r := r) (z := row) hcolumn'
  refine ⟨row * r.side + column, row_lt hcolumn' hrow', ?_, ?_, ?_⟩
  · rw [hoffsetX]
    omega
  · rw [hoffsetZ]
    omega
  · rw [hcolumn, hrow]
    exact Int.toNat_natCast (row * r.side + column)

theorem keyOf_check (hx : r.Fits r.centerX) (hz : r.Fits r.centerZ)
    (hplace : place < r.side * r.side) : (r.keyOf dimension place).check = .ok () := by
  obtain ⟨⟨hlowX, hhighX⟩, hlowZ, hhighZ⟩ := offset_bounds hplace
  obtain ⟨hkeyX, hkeyZ⟩ := keyOf_coordinates dimension hx hz hplace
  refine if_pos (Bool.and_eq_true_iff.mpr ⟨?_, ?_⟩)
  · rw [coordinateInRange_iff, hkeyX]
    exact reaches_of_fits hx hlowX hhighX
  · rw [coordinateInRange_iff, hkeyZ]
    exact reaches_of_fits hz hlowZ hhighZ

theorem nodup_map_keyOf (hx : r.Fits r.centerX) (hz : r.Fits r.centerZ) :
    ((List.range (r.side * r.side)).map (r.keyOf dimension)).Nodup := by
  refine List.Nodup.map_on ?_ List.nodup_range
  intro i hi j hj hkeys
  obtain ⟨hiX, hiZ⟩ := keyOf_coordinates dimension hx hz (List.mem_range.mp hi)
  obtain ⟨hjX, hjZ⟩ := keyOf_coordinates dimension hx hz (List.mem_range.mp hj)
  rw [hkeys] at hiX hiZ
  have hsameX : r.offsetX i = r.offsetX j := Int.add_left_cancel (hiX.symm.trans hjX)
  have hsameZ : r.offsetZ i = r.offsetZ j := Int.add_left_cancel (hiZ.symm.trans hjZ)
  have hplace := place_of_offset (r := r) i
  rw [hsameX, hsameZ, place_of_offset j] at hplace
  exact_mod_cast hplace.symm

end Square

/-! ## Squares -/

theorem keys_eq {r : RunSettings} {dimension : Dimension}
    (h : Dimension.ofText r.dimension = .ok dimension) :
    r.keys =
      ((List.range (r.side * r.side)).foldlM (r.addPlace dimension) []).map List.reverse := by
  rw [keys, h, ← walk_rows]
  rfl

/-- The dimension has a name and the square has chunks everywhere, and then the keys are those of
all places; or there are no keys, because of the dimension or of a place. -/
theorem keys_cases (r : RunSettings) :
    (∃ dimension, Dimension.ofText r.dimension = .ok dimension ∧
      r.Fits r.centerX ∧ r.Fits r.centerZ ∧
      r.keys = .ok ((List.range (r.side * r.side)).map (r.keyOf dimension))) ∨
    (¬((∃ dimension, Dimension.ofText r.dimension = .ok dimension) ∧
        r.Fits r.centerX ∧ r.Fits r.centerZ) ∧
      ∃ e, r.keys = .error e ∧
        (Dimension.ofText r.dimension = .error e ∨ ∃ x z, e = .outOfRange x z)) := by
  cases hdimension : Dimension.ofText r.dimension with
  | error e =>
    refine .inr ⟨?_, e, by rw [keys, hdimension]; rfl, .inl rfl⟩
    rintro ⟨⟨dimension, hok⟩, -⟩
    cases hok
  | ok dimension =>
    by_cases hfits : r.Fits r.centerX ∧ r.Fits r.centerZ
    · refine .inl ⟨dimension, rfl, hfits.1, hfits.2, ?_⟩
      rw [keys_eq hdimension, addPlaces_of_fits hfits.1 hfits.2]
      exact congrArg Except.ok (List.reverse_reverse _)
    · obtain ⟨x, z, herror⟩ := addPlaces_of_not_fits dimension hfits
      refine .inr ⟨fun hall => hfits hall.2, .outOfRange x z, ?_, .inr ⟨x, z, rfl⟩⟩
      rw [keys_eq hdimension, herror]
      rfl

/-- The keys of a square are given exactly if its dimension has a name and both coordinates of its
center are at least the radius away from where chunks end. Then they are as many as the square of
the side, and no key is there twice; all of them are in range; and the key so many columns and rows
away from the center stands where it comes when places are counted row by row. Otherwise there is an
error, about the dimension or about coordinates. -/
theorem keys_of_square (r : RunSettings) :
    let n : Int := r.radius.toNat
    ((∃ keys, r.keys = .ok keys) ↔
      (∃ dimension, Dimension.ofText r.dimension = .ok dimension) ∧
        ∀ center ∈ [r.centerX, r.centerZ],
          -limit.toInt ≤ center.toInt - n ∧ center.toInt + n < limit.toInt) ∧
    (∀ keys, r.keys = .ok keys →
      keys.length = (2 * r.radius.toNat + 1) * (2 * r.radius.toNat + 1) ∧ keys.Nodup ∧
      (∀ key ∈ keys, key.check = .ok ()) ∧
      ∀ dx dz : Int, -n ≤ dx → dx ≤ n → -n ≤ dz → dz ≤ n →
        ∃ key, keys[((dz + n) * (2 * n + 1) + (dx + n)).toNat]? = some key ∧
          key.x.toInt = r.centerX.toInt + dx ∧ key.z.toInt = r.centerZ.toInt + dz ∧
          key.seed = r.seed ∧ Dimension.ofText r.dimension = .ok key.dimension) ∧
    ((¬∃ keys, r.keys = .ok keys) → ∃ e, r.keys = .error e ∧
      (Dimension.ofText r.dimension = .error e ∨ ∃ x z, e = .outOfRange x z)) := by
  intro n
  have hcenters : (∀ center ∈ [r.centerX, r.centerZ],
      -limit.toInt ≤ center.toInt - n ∧ center.toInt + n < limit.toInt) ↔
      r.Fits r.centerX ∧ r.Fits r.centerZ := by
    rw [List.forall_mem_cons, List.forall_mem_singleton]
    rfl
  rw [hcenters]
  rcases r.keys_cases with ⟨dimension, hdimension, hx, hz, hkeys⟩ | ⟨hnone, e, herror, hcause⟩
  · refine ⟨iff_of_true ⟨_, hkeys⟩ ⟨⟨_, hdimension⟩, hx, hz⟩, ?_, fun h => absurd ⟨_, hkeys⟩ h⟩
    intro keys hok
    obtain rfl := Except.ok.inj (hkeys.symm.trans hok)
    refine ⟨?_, nodup_map_keyOf hx hz, ?_, ?_⟩
    · rw [List.length_map, List.length_range]
      rfl
    · intro key hkey
      obtain ⟨place, hplace, rfl⟩ := List.mem_map.mp hkey
      exact keyOf_check hx hz (List.mem_range.mp hplace)
    · intro dx dz hlowX hhighX hlowZ hhighZ
      obtain ⟨place, hplace, rfl, rfl, hindex⟩ := exists_place hlowX hhighX hlowZ hhighZ
      obtain ⟨hkeyX, hkeyZ⟩ := keyOf_coordinates dimension hx hz hplace
      refine ⟨r.keyOf dimension place, ?_, hkeyX, hkeyZ, rfl, hdimension⟩
      rw [hindex, List.getElem?_map, List.getElem?_range hplace]
      rfl
  · refine ⟨iff_of_false ?_ hnone, ?_, fun _ => ⟨e, herror, hcause⟩⟩
    · rintro ⟨keys, hok⟩
      rw [herror] at hok
      cases hok
    · intro keys hok
      rw [herror] at hok
      cases hok

/-- A square that ends where chunks end. The key east of the center is the last one of its row. -/
theorem borderSquare_keys :
    let r : RunSettings :=
      { seed := 9, dimension := "the_end", centerX := 134217725, centerZ := -10, radius := 1 }
    ∃ keys, r.keys = .ok keys ∧ keys.length = 9 ∧ keys.Nodup ∧
      ∃ key, keys[5]? = some key ∧ key.x.toInt = 134217726 ∧ key.z.toInt = -10 ∧ key.seed = 9 ∧
        key.dimension = .end_ := by
  intro r
  have hdimension : Dimension.ofText r.dimension = .ok .end_ := by
    have hnamed : (Dimension.ofText r.dimension).toOption = some .end_ := by decide +kernel
    cases h : Dimension.ofText r.dimension with
    | error e =>
      rw [h] at hnamed
      cases hnamed
    | ok dimension =>
      rw [h] at hnamed
      rw [Option.some.inj hnamed]
  obtain ⟨hok, hkeys, -⟩ := keys_of_square r
  obtain ⟨keys, hr⟩ := hok.mpr ⟨⟨_, hdimension⟩,
    List.forall_mem_cons.mpr ⟨by decide, List.forall_mem_singleton.mpr (by decide)⟩⟩
  obtain ⟨hlength, hnodup, -, hentry⟩ := hkeys keys hr
  obtain ⟨key, hkey, hx, hz, hseed, hend⟩ :=
    hentry 1 0 (by decide) (by decide) (by decide) (by decide)
  have hsame : key.dimension = .end_ := Except.ok.inj (hend.symm.trans hdimension)
  exact ⟨keys, hr, hlength, hnodup, key, hkey, hx, hz, hseed, hsame⟩

end RunSettings

end Landform
