import LitNote.Failure
import LitNote.Yaml.Look

/-!
Reading positions in a YAML text: what is left, and where that stands.
-/

namespace LitNote.Yaml

structure Cursor where
  rest : Text
  index : Nat
  line : Nat
  column : Nat
deriving Repr, DecidableEq, Inhabited

namespace Cursor

def start (s : Text) : Cursor := ⟨s, 0, 0, 0⟩

def orderMark : Char := Char.ofNat 0xFEFF

def next (c : Cursor) : Cursor :=
  match c.rest with
  | [] => c
  | x :: rest =>
    if isBreak x then ⟨rest, c.index + 1, c.line + 1, 0⟩
    else ⟨rest, c.index + 1, c.line, if x == orderMark then c.column else c.column + 1⟩

def skip : Nat → Cursor → Cursor
  | 0, c => c
  | n + 1, c => skip n c.next

def skipWhile (p : Char → Bool) (c : Cursor) : Cursor := c.skip (c.rest.takeWhile p).length

def skipSpaces (c : Cursor) : Cursor := c.skipWhile isSpace

def atEnd (c : Cursor) : Bool := c.rest.isEmpty

def atChar (c : Cursor) (x : Char) : Bool := c.rest.head? == some x

def atBreak (c : Cursor) : Bool := c.rest.head?.any isBreak

/-- Line ends are line feeds, but for the two separators, which stay what they are. -/
def breakText (x : Char) : Char := if x.toNat == 0x85 then '\n' else x

def takeBreak? (c : Cursor) : Option (Char × Cursor) :=
  match c.rest with
  | x :: _ => if isBreak x then some (breakText x, c.next) else none
  | [] => none

def skipBreak (c : Cursor) : Cursor := if c.atBreak then c.next else c

def atMarks (x : Char) (c : Cursor) : Bool :=
  match c.rest with
  | a :: b :: d :: rest => a == x && b == x && d == x && endsWord rest
  | _ => false

def atDocumentMark (c : Cursor) : Bool := c.atMarks '-' || c.atMarks '.'

def standsAlone (c : Cursor) : Bool := endsWord (c.rest.drop 1)

def skipComment (c : Cursor) : Cursor := if c.atChar '#' then c.skipWhile (!isBreak ·) else c

def atLineEnd (c : Cursor) : Bool := c.atEnd || c.atBreak

def atGap (c : Cursor) : Bool := c.atLineEnd || c.atChar ' '

def skipLine (c : Cursor) : Except Failure Cursor :=
  let c := c.skipSpaces.skipComment
  if c.atLineEnd then .ok c.skipBreak else .error .malformedYaml

end Cursor

end LitNote.Yaml
