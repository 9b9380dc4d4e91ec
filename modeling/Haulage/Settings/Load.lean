import Haulage.Fault
import Haulage.Files.Walk
import Haulage.Settings.Location
import Haulage.Settings.Schema

/-! Loading the settings. A file that is not there leaves the standard settings; one that is there
has to be read, understood, and written for a schema that is not newer than the current one. -/
namespace Haulage.Settings

/-- Refuses settings for a newer schema. -/
def checkVersion (settings : Settings) : Except Fault Settings :=
  if currentVersion < settings.schemaVersion then
    .error (.configuration (.newerVersion settings.schemaVersion))
  else .ok settings

/-- Settings from the bytes of a file. -/
def ofBytes (content : List UInt8) : Except Fault Settings :=
  match String.fromUTF8? ⟨content.toArray⟩ with
  | none => .error (.disk .notText)
  | some text =>
    match ofText text with
    | .error mismatch => .error (.settings mismatch)
    | .ok settings => checkVersion settings

/-- Settings from the file at a path. -/
def load (path? : Option String) (files : FileTree) : Except Fault Settings :=
  match path? with
  | none => .ok .standard
  | some path =>
    match files.look path with
    | .error _ => .ok .standard
    | .ok _ =>
      match files.read path with
      | .error fault => .error (.disk fault)
      | .ok content => ofBytes content

end Haulage.Settings
