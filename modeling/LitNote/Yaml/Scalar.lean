import LitNote.Yaml.Cursor

/-!
Scalars as they are written: between quotes, as blocks of lines and plain.  Line ends within a
scalar are folded: one becomes a space, and of more the first is dropped.
-/

namespace LitNote.Yaml

structure Scanned where
  text : Text
  cursor : Cursor
deriving Repr, Inhabited

def isSpaceOrTab (x : Char) : Bool := x == ' ' || x == '\t'

def quotedBreaks : Nat → Cursor → Except Failure (Text × Cursor)
  | 0, c => .ok ([], c)
  | fuel + 1, c =>
    if c.atDocumentMark then .error .malformedYaml
    else
      let c := c.skipWhile isSpaceOrTab
      match c.takeBreak? with
      | none => .ok ([], c)
      | some (x, c) => do
        let (breaks, c) ← quotedBreaks fuel c
        return (x :: breaks, c)

def fold (first : Char) (others : Text) : Text :=
  if first != '\n' then first :: others else if others.isEmpty then [' '] else others

def quotedBlanks (c : Cursor) : Except Failure Scanned :=
  let blanks := c.rest.takeWhile isSpaceOrTab
  let c := c.skip blanks.length
  match c.takeBreak? with
  | none => if c.atEnd then .error .malformedYaml else .ok ⟨blanks, c⟩
  | some (x, c) => do
    let (breaks, c) ← quotedBreaks (c.rest.length + 1) c
    return ⟨fold x breaks, c⟩

def escapes : List (Char × Nat) :=
  [('0', 0), ('a', 7), ('b', 8), ('t', 9), ('\t', 9), ('n', 10), ('v', 11), ('f', 12), ('r', 13),
    ('e', 27), (' ', 32), ('"', 34), ('\\', 92), ('/', 47), ('N', 0x85), ('_', 0xA0), ('L', 0x2028),
    ('P', 0x2029)]

def codeLengths : List (Char × Nat) := [('x', 2), ('u', 4), ('U', 8)]

def hexValue? (x : Char) : Option Nat :=
  if 48 ≤ x.toNat ∧ x.toNat ≤ 57 then some (x.toNat - 48)
  else if 65 ≤ x.toNat ∧ x.toNat ≤ 70 then some (x.toNat - 55)
  else if 97 ≤ x.toNat ∧ x.toNat ≤ 102 then some (x.toNat - 87)
  else none

def hexCode? (digits : Text) : Option Nat := do
  return (← digits.mapM hexValue?).foldl (fun n d => n * 16 + d) 0

def charOfCode (n : Nat) : Except Failure Char :=
  if n ≤ 0x10FFFF then .ok (if n.isValidChar then Char.ofNat n else Char.ofNat 0xFFFD)
  else if n ≤ 0x7FFFFFFF then .error .noCharacter
  else .error .outOfRange

def readEscape (c : Cursor) : Except Failure Scanned :=
  match c.rest with
  | [] => .error .malformedYaml
  | x :: rest =>
    match escapes.find? (·.1 == x), codeLengths.find? (·.1 == x) with
    | some (_, n), _ => .ok ⟨[Char.ofNat n], c.next⟩
    | none, some (_, width) =>
      match hexCode? (rest.take width) with
      | some n =>
        if rest.length < width then .error .malformedYaml
        else do return ⟨[← charOfCode n], c.skip (width + 1)⟩
      | none => .error .malformedYaml
    | none, none =>
      if isBreak x then do
        let (breaks, c) ← quotedBreaks (c.rest.length + 1) c.next
        return ⟨breaks, c⟩
      else .error .malformedYaml

def quotedPieces (quote : Char) : Nat → List Text → Cursor → Except Failure Scanned
  | 0, _, _ => .error .malformedYaml
  | fuel + 1, pieces, c =>
    match c.rest with
    | [] => .error .malformedYaml
    | x :: rest =>
      if x == quote then
        if quote == '\'' && rest.head? == some '\'' then
          quotedPieces quote fuel (['\''] :: pieces) (c.skip 2)
        else .ok ⟨pieces.reverse.flatten, c.next⟩
      else if x == '\\' && quote == '"' then do
        let escape ← readEscape c.next
        quotedPieces quote fuel (escape.text :: pieces) escape.cursor
      else if isSpaceOrTab x || isBreak x then do
        let blanks ← quotedBlanks c
        quotedPieces quote fuel (blanks.text :: pieces) blanks.cursor
      else quotedPieces quote fuel ([x] :: pieces) c.next

def readQuoted (quote : Char) (c : Cursor) : Except Failure Scanned :=
  quotedPieces quote (c.rest.length + 1) [] c

inductive Chomping where
  | clip
  | strip
  | keep
deriving Repr, DecidableEq, Inhabited

def chomping? : Char → Option Chomping
  | '+' => some .keep
  | '-' => some .strip
  | _ => none

def indentDigit? (x : Char) : Option Nat :=
  if 48 ≤ x.toNat ∧ x.toNat ≤ 57 then some (x.toNat - 48) else none

def blockSigns (c : Cursor) : Chomping × Option Nat × Cursor :=
  match c.rest with
  | x :: rest =>
    match chomping? x, indentDigit? x with
    | some chomping, _ =>
      match rest.head?.bind indentDigit? with
      | some n => (chomping, some n, c.skip 2)
      | none => (chomping, none, c.next)
    | none, some n =>
      match rest.head?.bind chomping? with
      | some chomping => (chomping, some n, c.skip 2)
      | none => (.clip, some n, c.next)
    | none, none => (.clip, none, c)
  | [] => (.clip, none, c)

def blockStart : Nat → Nat → Cursor → Text × Nat × Cursor
  | 0, widest, c => ([], widest, c)
  | fuel + 1, widest, c =>
    match c.takeBreak? with
    | some (x, c) =>
      let (breaks, widest, c) := blockStart fuel widest c
      (x :: breaks, widest, c)
    | none =>
      if c.atChar ' ' then blockStart fuel (max widest c.next.column) c.next else ([], widest, c)

def skipIndent (indent : Nat) (c : Cursor) : Cursor :=
  c.skip (min (indent - c.column) (c.rest.takeWhile isSpace).length)

def blockBreaks (indent : Nat) : Nat → Cursor → Text × Cursor
  | 0, c => ([], c)
  | fuel + 1, c =>
    let c := skipIndent indent c
    match c.takeBreak? with
    | some (x, c) =>
      let (breaks, c) := blockBreaks indent fuel c
      (x :: breaks, c)
    | none => ([], c)

structure Block where
  pieces : List Text
  lineEnd : Text
  breaks : Text
  cursor : Cursor
deriving Inhabited

def Block.goesOn (indent : Nat) (b : Block) : Bool :=
  b.cursor.column == indent && !b.cursor.atEnd

def joint (folded wordBefore wordAfter : Bool) (lineEnd breaks : Text) : Text :=
  if folded && lineEnd == ['\n'] && wordBefore && wordAfter then
    if breaks.isEmpty then [' '] else []
  else lineEnd

def startsWord (c : Cursor) : Bool := !c.rest.head?.any isSpaceOrTab

def blockLines (folded : Bool) (indent : Nat) : Nat → Block → Block
  | 0, b => b
  | fuel + 1, b =>
    if b.goesOn indent then
      let line := b.cursor.rest.takeWhile (!isBreak ·)
      let afterLine := b.cursor.skip line.length
      let lineEnd := match afterLine.takeBreak? with
        | some (x, _) => [x]
        | none => []
      let (breaks, cursor) := blockBreaks indent (afterLine.rest.length + 1) afterLine.skipBreak
      let next : Block := ⟨line :: b.breaks :: b.pieces, lineEnd, breaks, cursor⟩
      if next.goesOn indent then
        let between := joint folded (startsWord b.cursor) (startsWord cursor) lineEnd breaks
        blockLines folded indent fuel { next with pieces := between :: next.pieces }
      else next
    else b

def blockIndent (least : Nat) (sign : Option Nat) (c : Cursor) : Nat × Text × Cursor :=
  match sign with
  | none =>
    let (breaks, widest, c) := blockStart (c.rest.length + 1) 0 c
    (max least widest, breaks, c)
  | some n =>
    let indent := least + n - 1
    let (breaks, c) := blockBreaks indent (c.rest.length + 1) c
    (indent, breaks, c)

def readBlock (folded : Bool) (least : Nat) (c : Cursor) : Except Failure Scanned := do
  let (chomping, sign, c) := blockSigns c
  if sign == some 0 || !c.atGap then throw .malformedYaml
  let c ← c.skipLine
  let (indent, breaks, c) := blockIndent least sign c
  let b := blockLines folded indent (c.rest.length + 1) ⟨[], [], breaks, c⟩
  let ending := match chomping with
    | .clip => b.lineEnd
    | .strip => []
    | .keep => b.lineEnd ++ b.breaks
  return ⟨b.pieces.reverse.flatten ++ ending, b.cursor⟩

def endsInFlow (x : Char) : Bool := [',', '?', '[', ']', '\x7b', '\x7d'].contains x

def isFlowMark (x : Char) : Bool := [',', '[', ']', '\x7b', '\x7d'].contains x

def plainRun (flow : Bool) : Text → Text
  | [] => []
  | x :: rest =>
    let colon := x == ':' && (endsWord rest || (flow && rest.head?.any isFlowMark))
    if isSeparation x || colon || (flow && endsInFlow x) then [] else x :: plainRun flow rest

structure Gap where
  text : Text
  cursor : Cursor
  crossed : Bool
deriving Inhabited

def plainBreaks : Nat → Cursor → Option Text × Cursor
  | 0, c => (some [], c)
  | fuel + 1, c =>
    match c.takeBreak? with
    | some (x, c) =>
      if c.atDocumentMark then (none, c)
      else
        let (breaks, c) := plainBreaks fuel c
        (breaks.map (x :: ·), c)
    | none => if c.atChar ' ' then plainBreaks fuel c.next else (some [], c)

def plainGap (c : Cursor) : Gap :=
  let spaces := c.rest.takeWhile isSpace
  let c := c.skip spaces.length
  match c.takeBreak? with
  | none => ⟨spaces, c, false⟩
  | some (x, c) =>
    if c.atDocumentMark then ⟨[], c, true⟩
    else match plainBreaks (c.rest.length + 1) c with
      | (none, c) => ⟨[], c, true⟩
      | (some breaks, c) => ⟨fold x breaks, c, true⟩

/-- The runs of a plain scalar and the gaps between them, in reverse; the gap is the one before the
cursor.  The result tells whether a line ended after the last run. -/
def plainRuns (flow : Bool) (indent : Nat) : Nat → List Text → Gap → List Text × Gap
  | 0, pieces, gap => (pieces, gap)
  | fuel + 1, pieces, gap =>
    match plainRun flow gap.cursor.rest with
    | [] => (pieces, gap)
    | run =>
      let pieces := run :: gap.text :: pieces
      let gap := plainGap (gap.cursor.skip run.length)
      if gap.text.isEmpty || gap.cursor.atChar '#' || (!flow && gap.cursor.column < indent) then
        (pieces, gap)
      else plainRuns flow indent fuel pieces gap

def readPlain (flow : Bool) (indent : Nat) (c : Cursor) : Scanned × Bool :=
  let (pieces, gap) := plainRuns flow indent (c.rest.length + 1) [] ⟨[], c, false⟩
  (⟨pieces.reverse.flatten, gap.cursor⟩, gap.crossed)

end LitNote.Yaml
