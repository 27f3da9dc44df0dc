import Landform.Proofs.Settings.RoundTrip

/-! # What counts as a change

Reloading compares the settings that a file says now with those that were loaded before. So a file
that says the same in other words is unchanged, and one that says something else is not. Settings
with an undefined number are not equal to themselves, so a file that says one is reported as changed
every time, also when nobody has touched it. -/

namespace Landform

namespace Settings

/-- The default settings with another limit of warmth. -/
def warmAbove (limit : Float) : Settings :=
  let t := default.generation
  { default with generation := { t with climate := { t.climate with warm := .ofFloat limit } } }

theorem allNumbers_warmAbove {limit : Float} (h : limit.isNaN = false) :
    (warmAbove limit).AllNumbers := by
  obtain ⟨hoverworld, hnether, hend, hclimate, hsmoothing⟩ := allNumbers_default
  obtain ⟨htemperature, hhumidity, -, hcold, hwet⟩ := hclimate
  exact ⟨hoverworld, hnether, hend, ⟨htemperature, hhumidity, ⟨h, rfl⟩, hcold, hwet⟩, hsmoothing⟩

end Settings

namespace Folder

open Settings (warmAbove allNumbers_warmAbove)

variable {folder kept : Folder} {s t : Settings}

/-- What was loaded is what the file says from then on. -/
theorem read_of_load (h : folder.load = .ok (s, kept)) : kept.read = .ok s := by
  cases folder with
  | vacant =>
    -- the file that was put there holds the default settings, which are all defined
    cases h
    exact read_holding Settings.allNumbers_default
  | holding file =>
    cases hread : (holding file).read with
    | error e =>
      rw [load, hread] at h
      cases h
    | ok r =>
      rw [load, hread] at h
      cases h
      exact hread
  | blocked => cases h

theorem reload_of_same (hread : folder.read = .ok t) (hdefined : t.IsDefined) (h : t.Same s) :
    folder.reload s = .ok none := by
  rw [reload, hread]
  exact congrArg Except.ok (if_pos (Settings.beq_iff.2 ⟨hdefined, h⟩))

theorem reload_of_not_same (hread : folder.read = .ok t) (h : ¬(t.IsDefined ∧ t.Same s)) :
    folder.reload s = .ok (some t) := by
  rw [reload, hread]
  exact congrArg Except.ok (if_neg (mt Settings.beq_iff.1 h))

/-- Settings loaded from one folder are reloaded from it as unchanged exactly if all their numbers
are defined, and from another folder exactly if in addition its file says the same. In every other
case reloading gives what the file says. -/
theorem reload_of_load {first second kept kept' : Folder} (hfirst : first.load = .ok (s, kept))
    (hsecond : second.load = .ok (t, kept')) :
    (s.IsDefined → kept.reload s = .ok none) ∧
      (¬s.IsDefined → kept.reload s = .ok (some s)) ∧
      (t.IsDefined ∧ t.Same s → kept'.reload s = .ok none) ∧
      (¬(t.IsDefined ∧ t.Same s) → kept'.reload s = .ok (some t)) := by
  have hread := read_of_load hfirst
  have hread' := read_of_load hsecond
  refine ⟨fun h => ?_, fun h => ?_, fun h => ?_, fun h => ?_⟩
  · exact reload_of_same hread h (.refl s)
  · exact reload_of_not_same hread fun hsame => h hsame.1
  · exact reload_of_same hread' h.1 h.2
  · exact reload_of_not_same hread' h

/-- Settings that differ in the sign of a zero say the same, and those that differ in a number do
not. -/
theorem reload_of_load_limits :
    let file (limit : Float) := Folder.holding (warmAbove limit).toRon.toUTF8
    ((file 0).load = .ok (warmAbove 0, file 0) ∧
        (file (-0)).load = .ok (warmAbove (-0), file (-0)) ∧
        (file 0.5).load = .ok (warmAbove 0.5, file 0.5)) ∧
      (file 0).reload (warmAbove 0) = .ok none ∧ (file (-0)).reload (warmAbove 0) = .ok none ∧
      (file 0.5).reload (warmAbove 0) = .ok (some (warmAbove 0.5)) := by
  intro file
  have hzero : (warmAbove 0).AllNumbers := allNumbers_warmAbove (by decide)
  have hminus : (warmAbove (-0)).AllNumbers := allNumbers_warmAbove (by decide)
  have hhalf : (warmAbove 0.5).AllNumbers := allNumbers_warmAbove (by decide +kernel)
  have hsame : (warmAbove (-0)).Same (warmAbove 0) := ⟨rfl, rfl, rfl, rfl⟩
  have hother : ¬(warmAbove 0.5).Same (warmAbove 0) := fun h =>
    absurd (congrArg (·.climate.warm) h.generation) (by decide +kernel)
  obtain ⟨hunchanged, -, hunchanged', -⟩ :=
    reload_of_load (load_holding hzero) (load_holding hminus)
  obtain ⟨-, -, -, hchanged⟩ := reload_of_load (load_holding hzero) (load_holding hhalf)
  exact ⟨⟨load_holding hzero, load_holding hminus, load_holding hhalf⟩,
    hunchanged hzero.isDefined, hunchanged' ⟨hminus.isDefined, hsame⟩,
    hchanged fun h => hother h.2⟩

/-- A file that says an undefined number and nothing else. It is loaded and then reported as changed
although nothing has happened to it. -/
theorem reload_undefined :
    let folder := Folder.holding "(generation:(biome:(warm:NaN)))".toUTF8
    ∃ s, folder.load = .ok (s, folder) ∧ ¬s.IsDefined ∧ folder.reload s = .ok (some s) := by
  intro folder
  -- whether the settings are defined is all that matters of them
  have hdefined : (Settings.ofRon? "(generation:(biome:(warm:NaN)))").map
      (fun s => decide s.IsDefined) = some false := by decide +kernel
  obtain ⟨s, hs, hundefined⟩ := Option.map_eq_some_iff.1 hdefined
  have hnot : ¬s.IsDefined := of_decide_eq_false hundefined
  have hread : folder.read = .ok s := by
    simp only [folder, read, text?, fromUTF8?_toUTF8, hs]
  refine ⟨s, ?_, hnot, reload_of_not_same hread fun h => hnot h.1⟩
  rw [load, hread]
  rfl

end Folder

end Landform
