import LitNote.Settings.Reader
import LitNote.Yaml.Unrolled

/-!
Settings from the text of a file.
-/

namespace LitNote.Settings

def rootMessage (kind : Kind) : Text :=
  ("Config root must be a mapping, got: " ++ kind.name).toList

def ofText (s : Text) : Except Failure Settings := do
  let root := ((← Yaml.read (Text.unifyLineEnds s)).getD .null).orElse (.record [])
  match root.opened with
  | .record r => ofValue (.record r)
  | v => throw (.invalidSetting (rootMessage v.kind))

def ofFile (path : Text) (content : Option Text) : Except Failure Settings :=
  match content with
  | none => .error (.noSettingsFile path)
  | some s => ofText s

end LitNote.Settings
