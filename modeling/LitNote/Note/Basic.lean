import LitNote.FrontMatter.Basic
import LitNote.Note.Variables

/-!
Notes: the path, the front matter and the header of the note on a citation.
-/

namespace LitNote

structure Note where
  key : Text
  path : Text
  frontMatter : FrontMatter
  content : Text
deriving Inhabited

namespace Note

def header (citation vars : Value) (settings : Settings) : Drawing Text := do
  let fields ← Drawing.failing citation.fields
  let isChapter := fields.field "type" == Value.ofString "chapter"
    && (fields.field "container-title").isSet && !settings.chapterHeader.isEmpty
  Template.render (if isChapter then settings.chapterHeader else settings.header) vars

def isUnsafe (c : Char) : Bool := ['\\', ':', '"', '*', '?', '<', '>', '|'].contains c

def isKeyChar (c : Char) : Bool := Text.isAsciiWordChar c || c == '-'

def underscored (p : Char → Bool) (s : Text) : Text := Text.join ['_'] (Text.splitRuns p s)

def pathVariables (key : Text) (citation : Option Value) (today : Date) :
    Except Failure Record := do
  let base : List (String × Value) := [("citekey", .text key), ("currentDate", .text today.text)]
  match citation with
  | none => return Record.ofFields base
  | some c => do
    let fields ← c.fields
    let taken := ["title", "year", "type", "container-title"].map fun name =>
      (name, (fields.field name).orElse (.text []))
    return Record.ofFields (base ++ taken)

def fileEnding : Text := ".md".toList

def fallbackName (key : Text) : Text := '@' :: underscored (!isKeyChar ·) key

/-- The segments that are not blank, with the ending; the key alone if there are none. -/
def joinSegments (key name : Text) : Text :=
  match (Text.splitAtChar '/' name).filter fun s => !s.all Text.isBlank with
  | [] => key ++ fileEnding
  | segments => Text.join ['/'] segments ++ fileEnding

def pathOf (key rendered : Text) : Text :=
  let name := if rendered.all Text.isBlank then fallbackName key else rendered
  let name := underscored isUnsafe name
  if name.has '/' then joinSegments key name else name ++ fileEnding

def renderPath (key : Text) (citation : Option Value) (template : Text) (today : Date) :
    Drawing Text := do
  let vars ← Drawing.failing (pathVariables key citation today)
  let rendered ← Template.render template (.record vars)
  return pathOf key rendered

def keyed (citation : Record) (settings : Settings) (today : Date) : Drawing Record := do
  if (citation.field "id").isSet then return citation
  let key ← Key.generate today (.record citation) (.ok settings.key.merged)
  return citation.set "id" (.text key)

def contentText (frontMatter header : Text) : Text :=
  "---\n".toList ++ frontMatter ++ "---\n\n".toList ++ header ++ "\n\n".toList

/-- The note on a citation.  Contributors that are given stand in for those of the citation. -/
def compose (citation : Value) (settings : Settings)
    (contributors : Option (List Contributor.Listed)) (context : Context) : Drawing Note := do
  let record ← Drawing.failing citation.toRecord
  let record ← keyed record settings context.now.date
  let citation := Value.record record
  let key ← Drawing.failing (record.field "id").asText
  let listed ← match contributors with
    | some listed => pure listed
    | none => Drawing.failing (Contributor.listed citation)
  let vars ← Drawing.failing
    (templateVars citation (listed.map Contributor.Listed.contributor) context)
  let frontMatter ← FrontMatter.build ⟨citation, listed, .record vars⟩ settings
  let head ← header citation (.record vars) settings
  let written ← Drawing.failing frontMatter.write
  let path ← renderPath key (some citation) settings.fileName context.now.date
  return ⟨key, path, frontMatter, contentText written head⟩

end Note

end LitNote
