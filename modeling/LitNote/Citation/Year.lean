import LitNote.Text.Letter
import LitNote.Value.Notation

/-!
The year of a citation: the first of its date parts, or the first run of exactly four digits in one
of the fields that may hold a year.
-/

namespace LitNote.Year

def atStart? : Text → Option Text
  | a :: b :: c :: d :: rest =>
    if [a, b, c, d].all Text.isAsciiDigit && !(rest.head?.any Text.isAsciiWordChar)
    then some [a, b, c, d] else none
  | _ => none

def searchFrom (inWord : Bool) : Text → Text
  | [] => []
  | c :: rest =>
    match if inWord then none else atStart? (c :: rest) with
    | some year => year
    | none => searchFrom (Text.isAsciiWordChar c) rest

def search (s : Text) : Text := searchFrom false s

def searchValue : Value → Text
  | .text s => search s
  | _ => []

/-- The integer at the start of a text, in ASCII digits. -/
def leadingInteger (s : Text) : Except Failure (Option Int) :=
  let (negative, rest) := Integer.sign (Text.trimStart s)
  match rest.takeWhile Text.isAsciiDigit with
  | [] => .ok none
  | digits => (Integer.ofRun negative (digits.map fun c => c.toNat - 48)).map some

def firstDatePart (issued : Value) : Value :=
  match issued with
  | .record r =>
    match Record.field r "date-parts" with
    | .list (.list (y :: _) :: _) => y
    | _ => .null
  | _ => .null

def ofDateParts (issued : Value) : Except Failure Text := do
  let first := firstDatePart issued
  if first.isSet then
    match ← leadingInteger (← first.asText) with
    | some y => return if 1000 < y ∧ y < 3000 then Integer.text y else []
    | none => return []
  else return []

def literalOf : Value → Value
  | .record r => Record.field r "literal"
  | _ => .null

def ofTexts (r : Record) : Except Failure Text := do
  let year := r.field "year"
  let fromYear ← if year.isSet then search <$> year.asText else pure []
  let issued := r.field "issued"
  let found := [fromYear, searchValue (literalOf issued), searchValue (r.field "date"),
    searchValue issued]
  return (found.find? (!·.isEmpty)).getD []

def ofRecord (r : Record) : Except Failure Text := do
  let parts ← ofDateParts (r.field "issued")
  if parts.isEmpty then ofTexts r else return parts

/-- The year of a citation, or nothing.  Only nesting too deep is a failure. -/
def part (citation : Value) : Except Failure Text :=
  match citation with
  | .record r => match ofRecord r with
    | .error .tooDeep => .error .tooDeep
    | .error _ => .ok []
    | .ok year => .ok year
  | _ => .ok []

end LitNote.Year
