import LitNote.Citation.Author
import LitNote.Citation.Bracket
import LitNote.Citation.Year
import LitNote.Template.Render

/-!
Citation keys.  A key is rendered from a template, or made of author and year without one.  Making a
key never fails: what goes wrong is told by a key that starts with `error_`.
-/

namespace LitNote.Key

structure Options where
  template : Value
  minLength : Value
deriving Repr, BEq, Inhabited

namespace Options

def defaultTemplate : Text := Template.Token.tagRaw "author|lowercase".toList
  ++ Template.Token.tagRaw "year".toList

def standard : Options := ⟨.text defaultTemplate, .int 6⟩

inductive Name where
  | template
  | minLength
deriving Repr, DecidableEq

def names : List (String × Name) :=
  [("citekey_template", .template), ("min_citekey_length", .minLength),
    ("citekeyTemplate", .template), ("minCitekeyLength", .minLength)]

def nameOf? : Value → Option Name
  | .text s => (names.find? fun (n, _) => n.toList == s).map (·.2)
  | _ => none

def supplied (name : Name) (entries : Record) : Value :=
  ((entries.reverse.find? fun (k, _) => nameOf? k == some name).map (·.2)).getD .null

def given (value usual : Value) : Value := if value == .null then usual else value

def ofRecord (entries : Record) : Options :=
  ⟨given (supplied .template entries) standard.template,
    given (supplied .minLength entries) standard.minLength⟩

/-- Options given as a record, as a list of pairs or not at all.  Unknown names are passed over if
they can be shown. -/
def ofValue (v : Value) : Except Failure Options := do
  if v == .null then return standard
  let entries ← v.toRecord
  let _ ← (entries.filter fun (k, _) => (nameOf? k).isNone).mapM fun (k, _) => k.notated
  return ofRecord entries

def merged (o : Options) : Options :=
  ⟨given o.template standard.template, given o.minLength standard.minLength⟩

end Options

def templateVars (citation : Value) : Except Failure Record := do
  let base ← citation.toRecord
  let author ← Author.part citation
  let year ← Year.part citation
  let fields ← citation.fields
  let shortTitle ← Title.part citation 3
  let authors ← Author.entries citation
  return base.update (Record.ofFields [("author", .text author), ("year", .text year),
    ("title", (fields.field "title").orElse (.text [])), ("shorttitle", .text shortTitle),
    ("authors", .list authors)])

def ofAuthorYear (now : Date) (citation : Value) : Except Failure Text := do
  let author ← Author.part citation
  let year ← Year.part citation
  let year := if year.isEmpty then natText now.year else year
  return KeyText.sanitize (author ++ year)

def lengthened (key : Text) (minLength : Value) : Drawing Text := do
  let least ← Drawing.failing minLength.integer
  if key.length < least then return key ++ (← Drawing.digits) else return key

inductive Outcome where
  | noData
  | made (key : Text)
  | failed (digits : Text)
deriving Repr, DecidableEq

def Outcome.text : Outcome → Text
  | .noData => "error_no_data".toList
  | .made [] => "error_generating_citekey".toList
  | .made key => key
  | .failed digits => "error_".toList ++ digits

def templateText (template : Value) : Except Failure Text :=
  if template.isSet then template.asText else .ok []

def ofTemplate (template : Text) (minLength citation : Value) : Drawing Text := do
  let vars ← Drawing.failing (templateVars citation)
  let key ← Template.renderAs ⟨true, false⟩ (Bracket.expand template) (.record vars)
  lengthened key minLength

def attempt (now : Date) (citation : Value) (options : Except Failure Options) : Drawing Text := do
  let options ← Drawing.failing options
  let template ← Drawing.failing (templateText options.template)
  if template.all Text.isBlank then Drawing.failing (ofAuthorYear now citation)
  else ofTemplate template options.minLength citation

/-- The outcome of an attempt; digits are drawn for a failure. -/
def outcome (now : Date) (citation : Value) (options : Except Failure Options) :
    Draws → Outcome × Draws := fun d =>
  if citation == .null then (.noData, d)
  else match (attempt now citation options).run d with
    | (.ok key, d) => (.made key, d)
    | (.error _, d) =>
      match Drawing.digits.run d with
      | (.ok digits, d) => (.failed digits, d)
      | (.error _, d) => (.failed [], d)

def generate (now : Date) (citation : Value) (options : Except Failure Options) : Drawing Text :=
  Drawing.of fun d =>
    let (o, d) := outcome now citation options d
    (o.text, d)

end LitNote.Key
