import Landform.Proofs.Chunk.Guarded
import Landform.Proofs.Request.Names
import Landform.Proofs.Settings.Square

/-! # Settings that can be used

Settings drive a run where their table makes a generator, their square has keys, and every key has
its chunk. The check of settings looks at the table and at the dimension. It does not look at the
square, so it passes settings whose square reaches out of range; only together with a square that
fits does it tell whether there is a run. -/

namespace Landform

/-! ## Parts of the check -/

theorem Generator.ofTable_of_fault {t : Table Float} {fault : TableFault Float}
    (h : t.check = .error fault) : Generator.ofTable t = .error (.invalidTable fault) := by
  unfold Generator.ofTable
  split
  · rename_i hok
    rw [h] at hok
    cases hok
  · rename_i fault' hfault
    rw [h] at hfault
    rw [Except.error.inj hfault]

theorem Generator.exists_ofTable_iff {t : Table Float} :
    (∃ g, Generator.ofTable t = .ok g) ↔ t.check = .ok () := by
  cases h : t.check with
  | ok _ => exact iff_of_true ⟨_, Generator.ofTable_of_check h⟩ rfl
  | error fault =>
    refine iff_of_false ?_ nofun
    rintro ⟨g, hg⟩
    rw [Generator.ofTable_of_fault h] at hg
    cases hg

/-- A generator makes a chunk for every key that passes its check. -/
theorem Generator.generate_of_key_check (g : Generator) {key : ChunkKey} (h : key.check = .ok ())
    (schedule : Schedule) : ∃ c : Chunk, g.generate schedule key = .ok c :=
  ⟨_, g.run_eq_voxelwise key schedule.plan (ChunkKey.check_eq_ok_iff.mp h)⟩

theorem RunSettings.keys_of_unnamed {r : RunSettings} {cause : RequestError}
    (h : Dimension.ofText r.dimension = .error cause) : r.keys = .error cause := by
  unfold keys
  rw [h]
  rfl

namespace Settings

variable {s : Settings}

/-- The table is looked at first. -/
theorem check_of_fault {fault : TableFault Float} (h : s.generation.values.check = .error fault) :
    s.check = .error (.invalid (.invalidTable fault)) := by
  unfold check
  rw [h]
  rfl

theorem check_of_table (h : s.generation.values.check = .ok ()) :
    s.check = match Dimension.ofText s.run.dimension with
      | .ok _ => .ok ()
      | .error cause => .error (.invalid cause) := by
  unfold check
  rw [h]
  rfl

/-- The check passes settings with a table that passes its own and with a dimension. -/
theorem check_eq_ok_iff :
    s.check = .ok () ↔
      s.generation.values.check = .ok () ∧ ∃ d, Dimension.ofText s.run.dimension = .ok d := by
  cases htable : s.generation.values.check with
  | error fault =>
    rw [check_of_fault htable]
    exact iff_of_false nofun fun h => nomatch h.1
  | ok _ =>
    rw [check_of_table htable]
    cases hdimension : Dimension.ofText s.run.dimension with
    | error cause => exact iff_of_false nofun fun ⟨_, d, hd⟩ => nomatch hd
    | ok d => exact iff_of_true rfl ⟨rfl, d, rfl⟩

/-- What the check reports would be reported by the generator or by the keys as well. -/
theorem check_eq_error {e : SettingsError} (h : s.check = .error e) :
    ∃ cause, e = .invalid cause ∧
      (Generator.ofTable s.generation.values = .error cause ∨ s.run.keys = .error cause) := by
  cases htable : s.generation.values.check with
  | error fault =>
    rw [check_of_fault htable] at h
    exact ⟨_, (Except.error.inj h).symm, .inl (Generator.ofTable_of_fault htable)⟩
  | ok _ =>
    rw [check_of_table htable] at h
    cases hdimension : Dimension.ofText s.run.dimension with
    | error cause =>
      rw [hdimension] at h
      exact ⟨cause, (Except.error.inj h).symm, .inr (RunSettings.keys_of_unnamed hdimension)⟩
    | ok d =>
      rw [hdimension] at h
      cases h

/-! ## Runs -/

/-- There is a run with the settings: their table makes a generator, their square has keys, and the
generator makes a chunk for each of them under every schedule. -/
def Drives (s : Settings) : Prop :=
  ∃ g keys, Generator.ofTable s.generation.values = .ok g ∧ s.run.keys = .ok keys ∧
    ∀ key ∈ keys, ∀ schedule, ∃ c : Chunk, g.generate schedule key = .ok c

theorem drives_of_check (h : s.check = .ok ()) (hx : s.run.Fits s.run.centerX)
    (hz : s.run.Fits s.run.centerZ) : s.Drives := by
  obtain ⟨htable, hdimension⟩ := check_eq_ok_iff.mp h
  rcases s.run.keys_cases with ⟨dimension, -, -, -, hkeys⟩ | ⟨hnone, -⟩
  · refine ⟨_, _, Generator.ofTable_of_check htable, hkeys, ?_⟩
    intro key hkey schedule
    obtain ⟨place, hplace, rfl⟩ := List.mem_map.mp hkey
    exact Generator.generate_of_key_check _
      (RunSettings.keyOf_check hx hz (List.mem_range.mp hplace)) schedule
  · exact absurd ⟨hdimension, hx, hz⟩ hnone

theorem check_of_drives (h : s.Drives) :
    s.check = .ok () ∧ s.run.Fits s.run.centerX ∧ s.run.Fits s.run.centerZ := by
  obtain ⟨g, keys, hg, hkeys, -⟩ := h
  have htable : s.generation.values.check = .ok () := Generator.exists_ofTable_iff.mp ⟨g, hg⟩
  rcases s.run.keys_cases with ⟨dimension, hdimension, hx, hz, -⟩ | ⟨-, e, herror, -⟩
  · exact ⟨check_eq_ok_iff.mpr ⟨htable, dimension, hdimension⟩, hx, hz⟩
  · rw [hkeys] at herror
    cases herror

/-- Where the dimension has a name, only a key out of range can be missing. -/
theorem keys_of_not_drives (hcheck : s.check = .ok ()) (h : ¬s.Drives) :
    ∃ x z, s.run.keys = .error (.outOfRange x z) := by
  obtain ⟨-, d, hd⟩ := check_eq_ok_iff.mp hcheck
  rcases s.run.keys_cases with ⟨-, -, hx, hz, -⟩ | ⟨-, e, herror, hcause | ⟨x, z, rfl⟩⟩
  · exact absurd (drives_of_check hcheck hx hz) h
  · rw [hd] at hcause
    cases hcause
  · exact ⟨x, z, herror⟩

/-! ## Centers -/

/-- The default settings with another center and another dimension. -/
def placed (x z : Int32) (dimension : String) : Settings :=
  { Settings.default with run := { dimension, centerX := x, centerZ := z } }

theorem placed_table_check (x z : Int32) (dimension : String) :
    (placed x z dimension).generation.values.check = .ok () := by
  change Settings.default.generation.values.check = .ok ()
  rw [values_generation_default]
  exact Table.check_default

theorem placed_check (x z : Int32) (d : Dimension) : (placed x z d.name).check = .ok () :=
  check_eq_ok_iff.mpr ⟨placed_table_check x z d.name, d, Dimension.ofText_name d⟩

instance (r : RunSettings) (center : Int32) : Decidable (r.Fits center) :=
  inferInstanceAs (Decidable (_ ∧ _))

theorem not_drives_of_not_fits (h : ¬s.run.Fits s.run.centerX) : ¬s.Drives :=
  fun hdrives => h (check_of_drives hdrives).2.1

/-- There is a run with settings exactly if they pass their check and both coordinates of the center
are at least the radius away from where chunks end. The check passes exactly the settings whose
table makes a generator and whose dimension has a name, and what it reports otherwise is what the
generator or the keys would report. Where settings pass without there being a run, the keys report
a key out of range. -/
theorem drives_iff_check (s : Settings) :
    (s.Drives ↔
        s.check = .ok () ∧ s.run.Fits s.run.centerX ∧ s.run.Fits s.run.centerZ) ∧
      (s.check = .ok () ↔
        (∃ g, Generator.ofTable s.generation.values = .ok g) ∧
          ∃ d, Dimension.ofText s.run.dimension = .ok d) ∧
      (∀ e, s.check = .error e → ∃ cause, e = .invalid cause ∧
        (Generator.ofTable s.generation.values = .error cause ∨ s.run.keys = .error cause)) ∧
      (s.check = .ok () → ¬s.Drives → ∃ x z, s.run.keys = .error (.outOfRange x z)) := by
  refine ⟨⟨check_of_drives, ?_⟩, ?_, fun e => check_eq_error, keys_of_not_drives⟩
  · rintro ⟨hcheck, hx, hz⟩
    exact drives_of_check hcheck hx hz
  · rw [Generator.exists_ofTable_iff]
    exact check_eq_ok_iff

/-- The first square ends with the last chunk there is, and the second one chunk further on. The
third is in a dimension that has no such name. -/
theorem drives_placed :
    let near := placed 134217724 (-134217725) Dimension.end_.name
    let beyond := placed 134217725 0 Dimension.end_.name
    let unnamed := placed 0 0 "aether"
    let cause := RequestError.unknownDimension "aether"
    ((near.check = .ok () ∧ near.run.Fits near.run.centerX ∧ near.run.Fits near.run.centerZ) ∧
        (beyond.check = .ok () ∧ ¬beyond.Drives) ∧ unnamed.check = .error (.invalid cause)) ∧
      near.Drives ∧ (∃ x z, beyond.run.keys = .error (.outOfRange x z)) ∧
      ∃ cause', SettingsError.invalid cause = .invalid cause' ∧
        (Generator.ofTable unnamed.generation.values = .error cause' ∨
          unnamed.run.keys = .error cause') := by
  intro near beyond unnamed cause
  have hnear : near.check = .ok () := placed_check _ _ .end_
  have hx : near.run.Fits near.run.centerX := by decide
  have hz : near.run.Fits near.run.centerZ := by decide
  have hbeyond : beyond.check = .ok () := placed_check _ _ .end_
  have hdrives : ¬beyond.Drives := not_drives_of_not_fits (by decide)
  have hunnamed : unnamed.check = .error (.invalid cause) := by
    rw [check_of_table (placed_table_check 0 0 "aether")]
    rfl
  exact ⟨⟨⟨hnear, hx, hz⟩, ⟨hbeyond, hdrives⟩, hunnamed⟩,
    (drives_iff_check near).1.mpr ⟨hnear, hx, hz⟩,
    (drives_iff_check beyond).2.2.2 hbeyond hdrives, (drives_iff_check unnamed).2.2.1 _ hunnamed⟩

/-- The center has the greatest coordinate of 32 bits, so no chunk of the square exists. The
settings pass their check all the same. -/
theorem farCenter_passes :
    let s := placed 2147483647 0 Dimension.overworld.name
    s.check = .ok () ∧ ¬s.Drives ∧ ∃ x z, s.run.keys = .error (.outOfRange x z) := by
  intro s
  have hcheck : s.check = .ok () := placed_check _ _ .overworld
  have hdrives : ¬s.Drives := not_drives_of_not_fits (by decide)
  exact ⟨hcheck, hdrives, keys_of_not_drives hcheck hdrives⟩

end Settings

end Landform
