import LitNote.Text.Casing
import LitNote.Value.Elements
import LitNote.Value.Notation
import LitNote.Value.Place

/-!
Contributors of a work.  A name entry of a citation keeps every field: the known ones by name, the
others as they are.
-/

namespace LitNote

/-- The known parts may have any kind, for citations do not say. -/
structure Contributor where
  role : Value
  given : Value
  family : Value
  literal : Value
  extra : Record
deriving Repr, BEq, Inhabited

namespace Contributor

def knownFields : List String := ["role", "given", "family", "literal"]

def isKnown : Value → Bool
  | .text s => knownFields.any (·.toList == s)
  | _ => false

def emptyText : Value := .text []

def ofEntry (entry : Record) (role : Value) : Contributor where
  role := (entry.field "role").orElse role
  given := (entry.field "given").orElse emptyText
  family := (entry.field "family").orElse emptyText
  literal := (entry.field "literal").orElse emptyText
  extra := entry.filter fun (k, _) => !isKnown k

def nameFields (c : Contributor) : Record :=
  (Record.ofFields [("family", c.family), ("given", c.given), ("literal", c.literal)]).filter
    (·.2.isSet)

def entry (c : Contributor) : Record := c.nameFields.update c.extra

/-- A part of a name without blanks at its ends; it has to be a text. -/
def trimmed : Value → Except Failure Text
  | .text s => .ok (Text.trim s)
  | v => .error (.noText v.kind)

def displayName (c : Contributor) : Except Failure Text := do
  let family ← trimmed c.family
  let given ← trimmed c.given
  let literal ← trimmed c.literal
  if !literal.isEmpty then return literal
  if family.isEmpty then return given
  match given with
  | [] => return family
  | initial :: _ => return Text.upperOf initial ++ '.' :: ' ' :: family

def fullName (c : Contributor) : Except Failure Value := do
  if c.literal.isSet then return c.literal
  if c.family.isSet && c.given.isSet then
    return .text ((← c.given.asText) ++ ' ' :: (← c.family.asText))
  return c.family.orElse c.given

def roles : List String := ["author", "editor", "translator", "container-author"]

structure Listed where
  place : Place
  contributor : Contributor
deriving Repr, Inhabited

/-- The name entries among the items of a list; items of other kinds are passed over. -/
def listItems (role : Value) (i : Nat) : List Value → List Listed
  | [] => []
  | .record entry :: items =>
    ⟨[role, .int i], ofEntry entry role⟩ :: listItems role (i + 1) items
  | _ :: items => listItems role (i + 1) items

def listRole (citation : Record) (role : Value) : Except Failure (List Listed) := do
  match role with
  | .text key => return listItems role 0 (← ((citation.get key).orElse (.list [])).elements)
  | _ => return []

def listed (citation : Value) : Except Failure (List Listed) := do
  let fields ← citation.fields
  return (← (roles.map Value.ofString).mapM (listRole fields)).flatten

def ofCitation (citation : Value) : Except Failure (List Contributor) :=
  (listed citation).map (·.map Listed.contributor)

def isAuthor (c : Contributor) : Bool := c.role == .text "author".toList

/-- The authors in short: one or two by name, of more the first. -/
def authorsText (cs : List Contributor) : Except Failure Text := do
  let names := (← (cs.filter isAuthor).mapM displayName).filter (!·.isEmpty)
  match names with
  | [] => return []
  | [name] => return name
  | [first, second] => return first ++ " and ".toList ++ second
  | first :: _ => return first ++ " et al.".toList

def insertByRole (groups : List (Value × List Contributor)) (role : Value) (c : Contributor) :
    List (Value × List Contributor) :=
  match groups with
  | [] => [(role, [c])]
  | (r, members) :: rest =>
    if r.sameKey role then (r, members ++ [c]) :: rest else (r, members) :: insertByRole rest role c

def byRole (cs : List Contributor) : Except Failure (List (Value × List Contributor)) :=
  cs.foldlM (fun groups c => do
    let role := c.role.orElse (.text "author".toList)
    if role.isKey then return insertByRole groups role c else throw (.noKeyValue role.kind)) []

def roleLists (role : Value) (members : List Contributor) : Except Failure Record := do
  let name ← role.asText
  let raw := members.map fun c => Value.record (c.entry.set "role" role)
  let full ← members.mapM fullName
  let key := fun (ending : String) => Value.text (name ++ ending.toList)
  return [(key "s_raw", .list raw), (key "s", .list (full.filter Value.isSet)),
    (key "s_family", .list ((members.map fun c => c.family.orElse c.literal).filter Value.isSet)),
    (key "s_given", .list ((members.map given).filter Value.isSet))]

def lists (cs : List Contributor) : Except Failure Record := do
  (← byRole cs).foldlM (fun r (role, members) => do return r.update (← roleLists role members)) []

end Contributor

end LitNote
