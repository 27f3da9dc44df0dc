import Landform.Request

/-! # Keys in range

A chunk can be addressed where its blocks have coordinates of 32 bits. The check of a key asks for
more: the blocks of the chunks next to it have to have such coordinates too, so the outermost chunks
that could be addressed are refused on every side. -/

namespace Landform.ChunkKey

theorem limit_toInt : limit.toInt = 134217727 := by decide

theorem coordinateInRange_iff {c : Int32} :
    coordinateInRange c = true ↔ -limit.toInt ≤ c.toInt ∧ c.toInt < limit.toInt := by
  have hneg : (-limit).toInt = -limit.toInt := by decide
  rw [coordinateInRange, Bool.and_eq_true, decide_eq_true_eq, decide_eq_true_eq,
    Int32.le_iff_toInt_le, Int32.lt_iff_toInt_lt, hneg]

theorem check_of_inRange {key : ChunkKey} (h : key.inRange = true) : key.check = .ok () :=
  if_pos h

theorem check_of_not_inRange {key : ChunkKey} (h : key.inRange = false) :
    key.check = .error (.outOfRange key.x key.z) :=
  if_neg (by rw [h]; exact Bool.false_ne_true)

theorem check_eq_ok_iff {key : ChunkKey} : key.check = .ok () ↔ key.inRange = true := by
  cases h : key.inRange with
  | true => exact iff_of_true (check_of_inRange h) rfl
  | false =>
    rw [check_of_not_inRange h]
    exact iff_of_false nofun Bool.false_ne_true

/-- The request for a key is granted where its check passes, and refused with the error of its
check. -/
theorem ofRequest_eq {k : ChunkKey} {code : Int32} (h : Dimension.ofCode code = .ok k.dimension) :
    ofRequest k.x k.z k.seed code = (k.check >>= fun _ => .ok k) := by
  unfold ofRequest
  rw [h]
  rfl

/-! ## Blocks -/

/-- The blocks from `first` to `last`, counted along both axes from the corner of the chunk, have
coordinates of 32 bits. -/
def BlocksFit (k : ChunkKey) (first last : Int) : Prop :=
  ∀ d, first ≤ d → d ≤ last →
    (∃ x : Int32, x.toInt = k.blockOrigin.1 + d) ∧ ∃ z : Int32, z.toInt = k.blockOrigin.2 + d

theorem exists_toInt_iff {n : Int} :
    (∃ c : Int32, c.toInt = n) ↔ -0x80000000 ≤ n ∧ n ≤ 0x7FFFFFFF := by
  constructor
  · rintro ⟨c, rfl⟩
    have hlow := c.le_toInt
    have hhigh := c.toInt_lt
    omega
  · rintro ⟨hlow, hhigh⟩
    exact ⟨Int32.ofInt n, Int32.toInt_ofInt_of_le (by omega) (by omega)⟩

section Blocks

variable {k : ChunkKey} {first last : Int}

/-- The first and the last block decide. -/
theorem blocksFit_iff (h : first ≤ last) :
    k.BlocksFit first last ↔
      (-0x80000000 ≤ k.x.toInt * 16 + first ∧ k.x.toInt * 16 + last ≤ 0x7FFFFFFF) ∧
        -0x80000000 ≤ k.z.toInt * 16 + first ∧ k.z.toInt * 16 + last ≤ 0x7FFFFFFF := by
  unfold BlocksFit blockOrigin
  simp only [exists_toInt_iff]
  constructor
  · intro hall
    have hfirst := hall first (Int.le_refl _) h
    have hlast := hall last h (Int.le_refl _)
    omega
  · intro hends d hlow hhigh
    omega

/-- The blocks of the chunks next to a chunk are the 16 before its own and the 16 after them. -/
theorem inRange_iff_blocksFit : k.inRange = true ↔ k.BlocksFit (-16) 31 := by
  -- the range starts one chunk after the first that has such blocks, and ends one before the last
  rw [inRange, Bool.and_eq_true, coordinateInRange_iff, coordinateInRange_iff, limit_toInt,
    blocksFit_iff (by decide)]
  omega

/-- A chunk that is refused although all its blocks fit is in an outermost row. -/
theorem not_inRange_iff_outermost (h : k.BlocksFit 0 15) :
    ¬k.inRange = true ↔ ∃ c ∈ [k.x, k.z], c = -134217728 ∨ c = 134217727 := by
  have hlowest (c : Int32) : c = -134217728 ↔ c.toInt = -134217728 := Int32.toInt_inj.symm
  have hhighest (c : Int32) : c = 134217727 ↔ c.toInt = 134217727 := Int32.toInt_inj.symm
  rw [blocksFit_iff (by decide)] at h
  rw [inRange_iff_blocksFit, blocksFit_iff (by decide)]
  simp only [List.mem_cons, List.not_mem_nil, or_false, exists_eq_or_imp, exists_eq_left, hlowest,
    hhighest]
  omega

end Blocks

/-- A key passes its check, and the request for it is granted, exactly where all blocks of its chunk
and of the chunks next to it have coordinates of 32 bits. Otherwise both report the coordinates. Of
the chunks whose own blocks have such coordinates, those in the first and the last row along either
axis are refused. -/
theorem check_iff_blocksFit (k : ChunkKey) (code : Int32)
    (hcode : Dimension.ofCode code = .ok k.dimension) :
    (k.BlocksFit (-16) 31 → k.check = .ok () ∧ ofRequest k.x k.z k.seed code = .ok k) ∧
      (¬k.BlocksFit (-16) 31 → k.check = .error (.outOfRange k.x k.z) ∧
        ofRequest k.x k.z k.seed code = .error (.outOfRange k.x k.z)) ∧
      (k.BlocksFit 0 15 →
        (k.check ≠ .ok () ↔ ∃ c ∈ [k.x, k.z], c = -134217728 ∨ c = 134217727)) := by
  rw [ofRequest_eq hcode, ← inRange_iff_blocksFit, Bool.not_eq_true]
  refine ⟨fun hin => ?_, fun hout => ?_, fun hown => ?_⟩
  · rw [check_of_inRange hin]
    exact ⟨rfl, rfl⟩
  · rw [check_of_not_inRange hout]
    exact ⟨rfl, rfl⟩
  · rw [Ne, check_eq_ok_iff]
    exact not_inRange_iff_outermost hown

/-- The last chunk along x that is granted, in the first row along z that is. -/
theorem check_corner :
    let k : ChunkKey := ⟨134217726, -134217727, 9, .end_⟩
    (Dimension.ofCode 2 = .ok k.dimension ∧ k.BlocksFit (-16) 31 ∧ k.BlocksFit 0 15) ∧
      k.check = .ok () ∧ ofRequest 134217726 (-134217727) 9 2 = .ok k ∧
      ¬∃ c ∈ [k.x, k.z], c = -134217728 ∨ c = 134217727 := by
  intro k
  have hwide : k.BlocksFit (-16) 31 := (blocksFit_iff (by decide)).mpr (by decide)
  have hown : k.BlocksFit 0 15 := (blocksFit_iff (by decide)).mpr (by decide)
  obtain ⟨hgranted, -, houtermost⟩ := check_iff_blocksFit k 2 rfl
  obtain ⟨hcheck, hrequest⟩ := hgranted hwide
  exact ⟨⟨rfl, hwide, hown⟩, hcheck, hrequest, fun h => (houtermost hown).mpr h hcheck⟩

/-- All blocks of the last chunk along x have coordinates of 32 bits, the greatest being
2147483647, and so have those of the first chunk along z. Both chunks are refused. -/
theorem outermost_refused :
    let east : ChunkKey := ⟨134217727, 0, 0, .overworld⟩
    let north : ChunkKey := ⟨0, -134217728, 0, .overworld⟩
    (east.BlocksFit 0 15 ∧ east.check = .error (.outOfRange 134217727 0) ∧
        ofRequest 134217727 0 0 0 = .error (.outOfRange 134217727 0)) ∧
      north.BlocksFit 0 15 ∧ north.check = .error (.outOfRange 0 (-134217728)) ∧
        ofRequest 0 (-134217728) 0 0 = .error (.outOfRange 0 (-134217728)) := by
  intro east north
  have heast : east.BlocksFit 0 15 := (blocksFit_iff (by decide)).mpr (by decide)
  have hnorth : north.BlocksFit 0 15 := (blocksFit_iff (by decide)).mpr (by decide)
  have heastCheck : east.check = .error (.outOfRange 134217727 0) :=
    check_of_not_inRange (by decide)
  have hnorthCheck : north.check = .error (.outOfRange 0 (-134217728)) :=
    check_of_not_inRange (by decide)
  refine ⟨⟨heast, heastCheck, ?_⟩, hnorth, hnorthCheck, ?_⟩
  · exact (ofRequest_eq (k := east) rfl).trans (by rw [heastCheck]; rfl)
  · exact (ofRequest_eq (k := north) rfl).trans (by rw [hnorthCheck]; rfl)

end Landform.ChunkKey
