import LitNote.Text.Casing
import LitNote.Value.Notation

/-!
Authors of a citation and their surnames.
-/

namespace LitNote.Author

def unknown : Text := "unknown".toList

def isAuthor (creator : Value) : Bool :=
  match creator with
  | .record r => Record.field r "creatorType" == .text "author".toList
  | _ => false

def entries (citation : Value) : Except Failure (List Value) := do
  let fields ← citation.fields
  match fields.field "author", fields.field "creators" with
  | .list (a :: as), _ => return a :: as
  | _, .list creators => return creators.filter isAuthor
  | _, _ => return []

def isSeparator (c : Char) : Bool :=
  Text.isBlank c || [',', '-', '.', ':', ';', '(', ')', '&', '/'].contains c

/-- Characters that a surname in a key keeps.  The dotless i and the long s count as letters, for
their upper cases are those of ASCII letters. -/
def isNameChar (c : Char) : Bool :=
  let l := Text.lowerChar c
  (97 ≤ l.toNat && l.toNat ≤ 122) || (48 ≤ l.toNat && l.toNat ≤ 57) || l == '_' || l == '-'
    || l.toNat == 0x131 || l.toNat == 0x17F

def ofLiteral (literal : Value) : Except Failure Text := do
  if literal.isSet then
    let parts := (Text.splitBy isSeparator (← literal.asText)).filter (!·.isEmpty)
    return parts.headD []
  else return []

def ofText (name : Text) : Text :=
  match Text.cutAt ',' name with
  | (before, some _) => Text.trim before
  | _ => Text.trim (Text.cutAt ' ' name).1

def surname (author : Value) : Except Failure Value := do
  match author with
  | .record r =>
    let last := (Record.field r "family").orElse (Record.field r "lastName")
    if last.isSet then return last
    else return .text (← ofLiteral (Record.field r "literal"))
  | .text name => return .text (ofText name)
  | _ => return .text []

def lastName (author : Value) : Except Failure Text := do
  let last ← surname author
  if last.isSet then return (Text.toLower (← last.asText)).filter isNameChar
  else return []

def part (citation : Value) : Except Failure Text := do
  let fields ← citation.fields
  let name ← match ← entries citation, fields.field "creators" with
    | author :: _, _ => lastName author
    | [], .list (creator :: _) => lastName creator
    | [], _ => .ok []
  return if name.isEmpty then unknown else name

end LitNote.Author
