import LitNote.FrontMatter.Rendered
import LitNote.Note.Contributor
import LitNote.Yaml.Layout

/-!
Front matter: entries made of new values and of parts of the citation, and its written form.  A part
of the citation that comes twice is written once and referred to afterwards.
-/

namespace LitNote

/-- A value of the front matter, which knows what in it is part of the citation. -/
inductive Piece where
  | own (v : Value)
  | cited (place : Place) (v : Value)
  | record (entries : List (Value × Piece))
  | sequence (items : List Piece)
deriving Repr, Inhabited

namespace Piece

mutual

def value : Piece → Value
  | own v => v
  | cited _ v => v
  | record es => .record (valueEntries es)
  | sequence xs => .list (valueItems xs)

def valueItems : List Piece → List Value
  | [] => []
  | x :: xs => value x :: valueItems xs

def valueEntries : List (Value × Piece) → Record
  | [] => []
  | (k, x) :: es => (k, value x) :: valueEntries es

end

mutual

def node (p : Piece) (room : Nat := Stack.room) : Except Failure Yaml.Node :=
  match p with
  | own v => Yaml.Node.ofValue none v room
  | cited place v => Yaml.Node.ofValue (some place) v room
  | record es => Stack.descend 3 room fun room => (nodeEntries es room).map (.mapping none)
  | sequence xs => Stack.descend 3 room fun room => (nodeItems xs room).map (.sequence none)

def nodeItems (xs : List Piece) (room : Nat) : Except Failure (List Yaml.Node) :=
  match xs with
  | [] => .ok []
  | x :: xs => do return (← node x room) :: (← nodeItems xs room)

def nodeEntries (es : List (Value × Piece)) (room : Nat) :
    Except Failure (List (Yaml.Node × Yaml.Node)) :=
  match es with
  | [] => .ok []
  | (k, x) :: es => do
    let key ← Yaml.Node.ofValue none k room
    return (key, ← node x room) :: (← nodeEntries es room)

end

end Piece

abbrev FrontMatter := List (Value × Piece)

namespace FrontMatter

/-- A known key keeps its place. -/
def put (fm : FrontMatter) (key : Value) (piece : Piece) : FrontMatter :=
  match fm with
  | [] => [(key, piece)]
  | (k, p) :: rest => if k.sameKey key then (k, piece) :: rest else (k, p) :: put rest key piece

def has (fm : FrontMatter) (key : Value) : Bool := fm.any fun (k, _) => k.sameKey key

def toRecord (fm : FrontMatter) : Record := Piece.valueEntries fm

def write (fm : FrontMatter) : Except Failure Text := (Piece.record fm).node.map Yaml.write

/-- A number, or a value that spells an integer as this integer. -/
def numberPiece (place : Place) (v : Value) : Except Failure Piece :=
  match v with
  | .int n => .ok (.own (.int n))
  | .float x => .ok (.own (.float x))
  | v => match v.asText.bind Integer.read with
    | .ok n => .ok (.own (.int n))
    | .error .tooDeep => .error .tooDeep
    | .error _ => .ok (.cited place v)

def numericFields : List String := ["edition", "volume", "number"]

def isNumeric (name : Value) : Bool := numericFields.any fun s => name == Value.ofString s

def dateParts (citation : Record) : Except Failure (List Piece) :=
  (["year", "month", "day"].takeWhile fun key => (citation.field key).isSet).mapM fun key =>
    numberPiece [Value.ofString key] (citation.field key)

def issuedPiece? (citation : Record) : Except Failure (Option Piece) := do
  match ← dateParts citation with
  | [] =>
    let issued := citation.field "issued"
    return if issued.isSet then some (.cited [Value.ofString "issued"] issued) else none
  | parts => return some (.record [(Value.ofString "date-parts", .sequence [.sequence parts])])

def namePiece (l : Contributor.Listed) : Piece :=
  .record (l.contributor.entry.map fun (k, v) => (k, .cited (l.place ++ [k]) v))

def authorPiece? (contributors : List Contributor.Listed) : Option Piece :=
  match contributors.filter (·.contributor.isAuthor) with
  | [] => none
  | authors => some (.sequence (authors.map namePiece))

def fieldPiece? (name : Value) (citation : Record) : Except Failure (Option Piece) :=
  match citation.lookup name with
  | none => .ok none
  | some .null => .ok none
  | some (.text []) => .ok none
  | some v =>
    if isNumeric name then (numberPiece [name] v).map some else .ok (some (.cited [name] v))

def standardPiece? (name citation : Value) (contributors : List Contributor.Listed) :
    Except Failure (Option Piece) := do
  if name == Value.ofString "issued" then issuedPiece? (← citation.fields)
  else if name == Value.ofString "author" then return authorPiece? contributors
  else fieldPiece? name (← citation.fields)

def tagsKey : Value := Value.ofString "tags"

/-- Items with their places, if a place can be counted. -/
def placedItems (place : Place) (i : Nat) : List Value → List Piece
  | [] => []
  | v :: vs => .cited (place ++ [.int i]) v :: placedItems place (i + 1) vs

def elementPieces (place : Place) (v : Value) : Except Failure (List Piece) :=
  match v with
  | .list xs => .ok (placedItems place 0 xs)
  | .tuple xs => .ok (placedItems place 0 xs)
  | v => v.elements.map (·.map .own)

def distinct (pieces : List Piece) : List Piece :=
  (pieces.foldl (fun kept p =>
    if kept.any fun q => q.value.sameKey p.value then kept else p :: kept) []).reverse

def tagPieces (citation : Value) (tag : Text) : Except Failure (List Piece) := do
  let fields ← citation.fields
  let pieces ← elementPieces [tagsKey] ((fields.get "tags".toList).orElse (.list []))
  let texts ← pieces.mapM fun p => p.value.asText
  let set := (pieces.zip texts).filter fun (_, s) => !s.all Text.isBlank
  let tag := Text.trim tag
  let tags := set.map (·.1) ++ if tag.isEmpty then [] else [.own (.text tag)]
  match tags.find? fun p => !p.value.isKey with
  | some p => throw (.noKeyValue p.value.kind)
  | none => return distinct tags

/-- Adds the custom fields that stand at an anchor, in their order; a key that is there stays. -/
def addCustom (vars anchor : Value) (fm : FrontMatter) : List CustomField →
    Drawing FrontMatter
  | [] => return fm
  | f :: fs => do
    if f.enabled.isSet && f.anchor.sameKey anchor && !fm.has f.name then
      match ← customValue f.name f.template vars with
      | some v => addCustom vars anchor (fm.put f.name (.own v)) fs
      | none => addCustom vars anchor fm fs
    else addCustom vars anchor fm fs

structure Source where
  citation : Value
  contributors : List Contributor.Listed
  vars : Value
deriving Inhabited

def addStandard (source : Source) (custom : List CustomField) (fm : FrontMatter)
    (f : StandardField) : Drawing FrontMatter := do
  if !f.enabled.isSet then return fm
  let fm ← match ← Drawing.failing (standardPiece? f.name source.citation source.contributors) with
    | some piece => do pure (fm.put (← Drawing.failing f.key) piece)
    | none => pure fm
  addCustom source.vars f.name fm custom

/-- The front matter of a citation: custom fields at the start, standard fields with the custom
fields after them, custom fields at the end, and the tags. -/
def build (source : Source) (settings : Settings) : Drawing FrontMatter := do
  let fm ← addCustom source.vars Settings.startAnchor [] settings.custom
  let fm ← settings.standard.foldlM (addStandard source settings.custom) fm
  let fm ← addCustom source.vars Settings.endAnchor fm settings.custom
  let tags ← Drawing.failing (tagPieces source.citation settings.tag)
  return fm.put tagsKey (.sequence tags)

end FrontMatter

end LitNote
