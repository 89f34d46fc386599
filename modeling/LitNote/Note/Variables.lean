import LitNote.Calendar.Moment
import LitNote.Note.Contributor

/-!
The variables that the templates of a note see: the citation itself, names, attachments and links.
-/

namespace LitNote.Note

def dayText (d : Date) : Text :=
  natText d.year ++ '-' :: paddedNat 2 d.month ++ '-' :: paddedNat 2 d.day

def extension (path : Text) : Text :=
  if path.has '.' then Text.toUpper (path.reverse.takeWhile (· != '.')).reverse else "FILE".toList

def doubleBrackets (s : Text) : Text := '[' :: '[' :: s ++ [']', ']']

def attachmentLink (path : Text) : Text := doubleBrackets (path ++ '|' :: extension path)

def quotes (s : Text) : Text := '"' :: s ++ ['"']

def texts (ss : List Text) : Value := .list (ss.map .text)

def firstText (ss : List Text) : Value := .text (ss.headD [])

structure Context where
  now : Moment
  attachments : List Text
  related : List Text
deriving Repr, Inhabited

def clockFields (now : Moment) : List (String × Value) :=
  [("currentDate", .text (dayText now.date)), ("currentTime", .text now.time.clock)]

def attachmentFields (paths : List Text) : Record :=
  let links := paths.map attachmentLink
  Record.ofFields [("pdflink", texts paths), ("raw_pdflinks", texts paths),
    ("attachments", texts links), ("quoted_attachments", texts (links.map quotes)),
    ("raw_pdflink", firstText paths), ("attachment", firstText links),
    ("quoted_attachment", firstText (links.map quotes))]

def linkFields (paths : List Text) : Record :=
  let links := paths.map doubleBrackets
  Record.ofFields [("links", texts links), ("linkPaths", texts paths),
    ("links_string", .text (Text.join ", ".toList links))]

/-- The variables of a citation.  Names and links win over fields of the citation, and these over
the clock and the authors in short. -/
def templateVars (citation : Value) (contributors : List Contributor) (context : Context) :
    Except Failure Record := do
  let authors ← Contributor.authorsText contributors
  let start := Record.ofFields (clockFields context.now ++ [("authors", .text authors)])
  let named := start.update (← citation.toRecord)
  let listed := named.update (← Contributor.lists contributors)
  let fields ← citation.fields
  let keyed := listed.set "citekey" ((fields.field "id").orElse (.text []))
  return (keyed.update (attachmentFields context.attachments)).update (linkFields context.related)

end LitNote.Note
