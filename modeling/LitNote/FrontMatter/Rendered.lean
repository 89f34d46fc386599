import LitNote.Settings.Basic

/-!
Custom fields of the front matter: what the text of a rendered template is stored as.
-/

namespace LitNote.FrontMatter

def looksStructured (s : Text) : Bool :=
  (s.head? == some '[' && s.getLast? == some ']')
    || (s.head? == some '\x7b' && s.getLast? == some '\x7d')

def structuredValue (isArray : Bool) (rendered : Text) : Except Failure Value := do
  let candidate ← if isArray then ArrayLiteral.normalize rendered else pure rendered
  match Json.read candidate with
  | .ok v => return v
  | .error f =>
    if f.cause = .tooDeep then throw .tooDeep
    if isArray && candidate.filter (· != ' ') = ArrayLiteral.empty then return .list []
    return .text rendered

/-- What rendered text is stored as.  Blank text is left out, unless a list was to be made. -/
def storedValue (isArray : Bool) (rendered : Text) : Except Failure (Option Value) := do
  if rendered.all Text.isBlank then return if isArray then some (.list []) else none
  if looksStructured rendered then some <$> structuredValue isArray rendered
  else return some (.text rendered)

def takenOver? (name : Value) (template : Text) : Option String :=
  if name == Value.ofString "pdflink" && template = Settings.tagOf "pdflink" then some "pdflink"
  else if name == Value.ofString "attachment" && template = Settings.tagOf "attachment" then
    some "attachments"
  else none

def elementsOf (vars : Value) (key : String) : Except Failure (Option Value) := do
  let fields ← vars.fields
  match ← ((fields.field key).orElse (.list [])).elements with
  | [] => return none
  | items => return some (.list items)

def customValue (name : Value) (template : Text) (vars : Value) : Drawing (Option Value) :=
  match takenOver? name template with
  | some key => Drawing.failing (elementsOf vars key)
  | none => do
    let isArray := ArrayLiteral.isTemplate template
    let rendered ← Template.renderAs ⟨false, isArray⟩ template vars
    Drawing.failing (storedValue isArray rendered)

end LitNote.FrontMatter
