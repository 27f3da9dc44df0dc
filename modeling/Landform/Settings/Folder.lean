import Landform.Settings.Read
import Landform.Settings.Write

/-! # Where settings are kept

A folder keeps settings in one file. Loading from a folder without a file leaves a file with the
default settings there. -/

namespace Landform

/-- What stands in the place of a settings folder. -/
inductive Folder where
  /-- No file is there, and one can be put there. -/
  | vacant
  /-- A file with these bytes. -/
  | holding (file : ByteArray)
  /-- Something that is no folder, so that no file is there and none can be put there. -/
  | blocked

namespace Folder

/-- The text of the file, if there is a file and it is text. -/
def text? : Folder → Option String
  | holding file => String.fromUTF8? file
  | vacant | blocked => none

/-- The folder with another file in the place of its own. -/
def write (folder : Folder) (file : ByteArray) : Except SettingsError Folder :=
  match folder with
  | vacant | holding _ => .ok (holding file)
  | blocked => .error .unwritable

/-- The folder without a file. -/
def delete : Folder → Folder
  | vacant | holding _ => vacant
  | blocked => blocked

/-- The settings that the file says. -/
def read (folder : Folder) : Except SettingsError Settings :=
  match folder.text? with
  | none => .error .unreadable
  | some text =>
    match Settings.ofRon? text with
    | some s => .ok s
    | none => .error .malformed

/-- Keeps settings. -/
def save (folder : Folder) (s : Settings) : Except SettingsError Folder :=
  folder.write s.toRon.toUTF8

/-- The settings that are kept, or else the default settings, which are kept from then on. -/
def load (folder : Folder) : Except SettingsError (Settings × Folder) :=
  match folder with
  | holding _ => do return (← folder.read, folder)
  | vacant | blocked => do return (.default, ← folder.save .default)

/-- The settings that are kept, if they differ from the current ones. -/
def reload (folder : Folder) (current : Settings) : Except SettingsError (Option Settings) := do
  let s ← folder.read
  return if s == current then none else some s

end Folder

end Landform
