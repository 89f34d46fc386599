import LitNote.Settings.Basic

/-!
Settings from a value, with defaults for what it does not give.  What is read is checked: the least
length of a key, the names of custom fields and the places where they are to stand.
-/

namespace LitNote

namespace Settings

def hasMember (v : Value) (key : Text) : Except Failure Bool :=
  match v.opened with
  | .record r => .ok (Record.hasKey r key)
  | .list xs => .ok (xs.any (· == .text key))
  | .tuple xs => .ok (xs.any (· == .text key))
  | .text s => .ok (Text.contains key s)
  | v => .error (.noMembers v.kind)

def required (v : Value) (key : Text) : Except Failure Value :=
  match v.opened with
  | .record r => match Record.get? r key with
    | some x => .ok x
    | none => .error (.noKey key)
  | v => .error (.noIndexing v.kind)

def given? (v : Value) (key : String) : Except Failure (Option Value) := do
  if ← hasMember v key.toList then some <$> required v key.toList else return none

/-- A number too long to be written breaks a rule for settings; nesting too deep does not. -/
def writable (x : Except Failure Text) : Except Failure Text :=
  match x with
  | .error .tooManyDigits => .error (.invalidSetting Failure.digitsMessage)
  | x => x

def textSetting (v : Value) (key : String) (missing : Text) : Except Failure Text := do
  match ← given? v key with
  | none => return missing
  | some .null => return []
  | some x => writable x.asText

def fieldOr (r : Record) (key : String) (missing : Value) : Value :=
  (Record.get? r key.toList).getD missing

def keySetting (v : Value) : Except Failure Key.Options := do
  match ← given? v "citekey" with
  | none => return defaultKey
  | some options => do
    let r ← (options.orElse (.record [])).fields
    return ⟨(fieldOr r "template" defaultKey.template).orElse (.text []),
      fieldOr r "min_length" defaultKey.minLength⟩

def readStandard (v : Value) : Except Failure StandardField := do
  let name ← required v "name".toList
  let r ← v.fields
  return ⟨name, fieldOr r "label" (.text []), fieldOr r "enabled" (.bool true),
    (fieldOr r "alias" .null).orElse (.text [])⟩

def readCustom (v : Value) : Except Failure CustomField := do
  let r ← v.fields
  let template ← writable (fieldOr r "template" (.text [])).asText
  return ⟨fieldOr r "name" (.text []), template, fieldOr r "enabled" (.bool true),
    (fieldOr r "insert_after" .null).orElse endAnchor⟩

def listSetting {α : Type} (v : Value) (key : String) (read : Value → Except Failure α)
    (missing : List α) : Except Failure (List α) := do
  match ← given? v key with
  | none => return missing
  | some items => (← (items.orElse (.list [])).elements).mapM read

def lengthMessage (v : Value) : Except Failure Text := do
  return "citekey.min_length must be a positive integer, got: ".toList ++ (← writable v.notated)

def checkLength (v : Value) : Except Failure Unit := do
  match v with
  | .int n => if 1 ≤ n then return () else throw (.invalidSetting (← lengthMessage v))
  | v => throw (.invalidSetting (← lengthMessage v))

def checkKeys (names : List Value) : Except Failure Unit :=
  names.forM fun v => if v.isKey then .ok () else .error (.noKeyValue v.kind)

def anchorMessage (name anchor : Value) : Except Failure Text := do
  return "custom field ".toList ++ (← writable name.notated)
    ++ ": insert_after must be start/end or a standard field name, got: ".toList
    ++ (← writable anchor.notated)

/-- Whether a value may be asked for among keys.  A set may, though it is none of them. -/
def mayBeSought : Value → Bool
  | .set _ => true
  | v => v.isKey

def checkAnchor (names : List Value) (name anchor : Value) : Except Failure Unit := do
  if anchor == startAnchor || anchor == endAnchor then return ()
  if !mayBeSought anchor then throw (.noKeyValue anchor.kind)
  if names.any (·.sameKey anchor) then return ()
  throw (.invalidSetting (← anchorMessage name anchor))

def isBlankName : Value → Except Failure Bool
  | .text name => .ok (name.all Text.isBlank)
  | .bytes name => .ok (name.all isBlankOctet)
  | v => .error (.noText v.kind)

def checkCustom (names : List Value) (f : CustomField) : Except Failure Unit := do
  if ← isBlankName f.name then
    throw (.invalidSetting "custom frontmatter field without a name".toList)
  checkAnchor names f.name f.after

def ofValue (v : Value) : Except Failure Settings := do
  let fileName ← textSetting v "filename_template" defaultFileName
  let header ← textSetting v "header_template" defaultHeader
  let chapterHeader ← textSetting v "chapter_header_template" defaultChapterHeader
  let tag ← textSetting v "literature_note_tag" []
  let key ← keySetting v
  let standard ← listSetting v "standard_frontmatter_fields" readStandard defaultStandard
  let custom ← listSetting v "custom_frontmatter_fields" readCustom defaultCustom
  checkLength key.minLength
  let names := standard.map StandardField.name
  checkKeys names
  custom.forM (checkCustom names)
  return ⟨fileName, header, chapterHeader, tag, key, standard, custom⟩

end Settings

end LitNote
