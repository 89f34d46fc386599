import LitNote.Number.Integer
import LitNote.Text.Letter
import LitNote.Text.Percent
import LitNote.Yaml.Cursor

/-!
What is said about a node before it comes, and about a document: anchors, tags and directives.
-/

namespace LitNote.Yaml

structure Found (α : Type) where
  value : α
  cursor : Cursor
deriving Inhabited

def isNameChar (x : Char) : Bool := Text.isAsciiAlphanumeric x || x == '-' || x == '_'

def readName (c : Cursor) : Except Failure (Found Text) :=
  match c.rest.takeWhile isNameChar with
  | [] => .error .malformedYaml
  | name => .ok ⟨name, c.skip name.length⟩

def endsAnchor (s : Text) : Bool :=
  endsWord s || s.head?.any ['?', ':', ',', ']', '\x7d', '%', '@', '\x60'].contains

def readAnchor (c : Cursor) : Except Failure (Found Text) := do
  let name ← readName c
  if endsAnchor name.cursor.rest then return name else throw .malformedYaml

def isUriChar (x : Char) : Bool :=
  Text.isAsciiAlphanumeric x || ['-', ';', '/', '?', ':', '@', '&', '=', '+', '$', ',', '_', '.',
    '!', '~', '*', '\'', '(', ')', '[', ']'].contains x

def readBytes : Nat → Cursor → Except Failure (Found (List Nat))
  | 0, c => .ok ⟨[], c⟩
  | fuel + 1, c =>
    match c.rest with
    | '%' :: a :: b :: _ =>
      match Text.Percent.hexValue? a, Text.Percent.hexValue? b with
      | some x, some y => do
        let more ← readBytes fuel (c.skip 3)
        return ⟨(x * 16 + y) :: more.value, more.cursor⟩
      | _, _ => .error .malformedYaml
    | '%' :: _ => .error .malformedYaml
    | _ => .ok ⟨[], c⟩

def decodeBytes (bytes : List Nat) : Except Failure Text :=
  let s := Text.Percent.decodeUtf8 bytes
  if s.flatMap Text.Percent.utf8 == bytes then .ok s else .error .malformedYaml

def readUriChars : Nat → Cursor → Except Failure (Found Text)
  | 0, c => .ok ⟨[], c⟩
  | fuel + 1, c =>
    match c.rest with
    | [] => .ok ⟨[], c⟩
    | x :: _ =>
      if x == '%' then do
        let bytes ← readBytes (c.rest.length + 1) c
        let s ← decodeBytes bytes.value
        let more ← readUriChars fuel bytes.cursor
        return ⟨s ++ more.value, more.cursor⟩
      else if isUriChar x then do
        let more ← readUriChars fuel c.next
        return ⟨x :: more.value, more.cursor⟩
      else .ok ⟨[], c⟩

def readUri (c : Cursor) : Except Failure (Found Text) := do
  let uri ← readUriChars (c.rest.length + 1) c
  if uri.cursor.index == c.index then throw .malformedYaml else return uri

def readHandle (c : Cursor) : Except Failure (Found Text) :=
  match c.rest with
  | '!' :: rest =>
    let name := rest.takeWhile isNameChar
    let after := c.skip (name.length + 1)
    if name.isEmpty && rest.head? == some ' ' then .ok ⟨['!'], c.next⟩
    else if after.atChar '!' then .ok ⟨'!' :: name ++ ['!'], after.next⟩
    else .error .malformedYaml
  | _ => .error .malformedYaml

/-- A tag as it is written; one in angle brackets has no handle. -/
structure WrittenTag where
  handle : Option Text
  suffix : Text
deriving Repr, DecidableEq, Inhabited

def hasHandle (rest : Text) : Bool :=
  (rest.takeWhile fun x => !(isBreak x || x == ' ')).contains '!'

def readTagParts (c : Cursor) : Except Failure (Found WrittenTag) := do
  let rest := c.rest.drop 1
  if rest.head? == some '<' then
    let uri ← readUri (c.skip 2)
    if uri.cursor.atChar '>' then return ⟨⟨none, uri.value⟩, uri.cursor.next⟩
    else throw .malformedYaml
  else if endsWord rest then return ⟨⟨none, ['!']⟩, c.next⟩
  else
    let handle ← if hasHandle rest then readHandle c else pure ⟨['!'], c.next⟩
    let uri ← readUri handle.cursor
    return ⟨⟨some handle.value, uri.value⟩, uri.cursor⟩

def readTag (c : Cursor) : Except Failure (Found WrittenTag) := do
  let tag ← readTagParts c
  if tag.cursor.atGap then return tag else throw .malformedYaml

inductive Directive where
  | version (major : Nat)
  | tag (handle start : Text)
  | other
deriving Repr, DecidableEq, Inhabited

def readDigits (c : Cursor) : Except Failure (Found Nat) :=
  match c.rest.takeWhile Text.isAsciiDigit with
  | [] => .error .malformedYaml
  | digits => .ok ⟨Integer.ofDigits (digits.map fun x => x.toNat - 48), c.skip digits.length⟩

def readVersion (c : Cursor) : Except Failure (Found Directive) := do
  let major ← readDigits c.skipSpaces
  if !major.cursor.atChar '.' then throw .malformedYaml
  let minor ← readDigits major.cursor.next
  if minor.cursor.atGap then return ⟨.version major.value, minor.cursor⟩ else throw .malformedYaml

def readTagDirective (c : Cursor) : Except Failure (Found Directive) := do
  let handle ← readHandle c.skipSpaces
  if !handle.cursor.atChar ' ' then throw .malformedYaml
  let uri ← readUri handle.cursor.skipSpaces
  if uri.cursor.atGap then return ⟨.tag handle.value uri.value, uri.cursor⟩
  else throw .malformedYaml

def readDirective (c : Cursor) : Except Failure (Found Directive) := do
  let name ← readName c.next
  if !name.cursor.atGap then throw .malformedYaml
  let directive ←
    if name.value == "YAML".toList then readVersion name.cursor
    else if name.value == "TAG".toList then readTagDirective name.cursor
    else pure ⟨.other, name.cursor.skipWhile (!isBreak ·)⟩
  return ⟨directive.value, ← directive.cursor.skipLine⟩

end LitNote.Yaml
