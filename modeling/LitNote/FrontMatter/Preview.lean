import LitNote.ArrayLiteral
import LitNote.Yaml.Layout

/-!
A look ahead: how the front matter will hold the text of a rendered template, and why.
-/

namespace LitNote.FrontMatter

inductive Preview where
  | emptyList
  | list (items : Value)
  | brokenList (s : Text)
  | dashLines (s : Text)
  | commaText (s : Text)
  | lines (s : Text)
  | simple (s : Text)
deriving Repr, Inhabited

namespace Preview

def of (template rendered : Text) : Except Failure Preview := do
  let s := Text.trim rendered
  if ArrayLiteral.isTemplate template && s.isEmpty then return emptyList
  if ArrayLiteral.isTemplate s then
    match Json.read s with
    | .ok items => return list items
    | .error f => if f.cause = .tooDeep then throw .tooDeep else return brokenList s
  if s.head? == some '-' && rendered.has '\n' then return dashLines s
  if rendered.has '\n' then return lines rendered
  if rendered.has ',' && !rendered.has '\x7b' && !rendered.has '\x7d' then
    return commaText rendered
  return simple rendered

def value : Preview → Value
  | emptyList => .list []
  | list items => items
  | brokenList s => .text s
  | dashLines s => .text s
  | commaText s => .text s
  | lines s => .text s
  | simple s => .text s

def isList : Preview → Bool
  | emptyList => true
  | list _ => true
  | _ => false

def explanation : Preview → String
  | emptyList => "The array template rendered nothing and is stored as an empty list."
  | list _ => "This template produces a valid JSON array and is stored as a YAML list."
  | brokenList _ => "This looks like an array but is not valid JSON. The template needs " ++
      "commas between quoted items. It will be stored as a plain string."
  | dashLines _ => "Dash lines are NOT parsed as a list. Use the JSON syntax with square " ++
      "brackets to create arrays."
  | commaText _ => "Comma-separated values are stored as a single string, not as a list."
  | lines _ => "Multi-line text is stored as one string with its line breaks preserved."
  | simple _ => "Simple strings are stored as-is."

end Preview

def fence : Text := "---".toList

def fieldText (v : Value) : Except Failure Text := do
  let node ← Yaml.Node.ofValue none (.record (Record.ofFields [("field", v)]))
  return fence ++ '\n' :: Yaml.write node ++ fence

def Preview.text (p : Preview) : Except Failure Text := fieldText p.value

end LitNote.FrontMatter
