import LitNote.Yaml.Property
import LitNote.Yaml.Scalar

/-!
Tokens of a YAML text.  Indentation becomes explicit: a block opens with its first entry and is
closed by a token of its own.  A key is known only by the colon after it, so its token is put in
afterwards, where the key started.
-/

namespace LitNote.Yaml

inductive Token where
  | directive (d : Directive)
  | documentStart
  | documentEnd
  | blockSequence
  | blockMapping
  | blockEnd
  | entry
  | key
  | value
  | flowSequence
  | flowSequenceEnd
  | flowMapping
  | flowMappingEnd
  | flowEntry
  | alias (name : Text)
  | anchor (name : Text)
  | tag (t : WrittenTag)
  | scalar (text : Text) (plain : Bool)
deriving Repr, DecidableEq, Inhabited

/-- A place where a key may have started: the tokens before it, and where it stands.  A key is
required where the block has already got one. -/
structure KeyStart where
  count : Nat
  required : Bool
  index : Nat
  line : Nat
  column : Nat
deriving Repr, DecidableEq, Inhabited

/-- A text in reading.  `tokens` and `indents` start with the last and the innermost; `keys` has an
entry for each bracket that is open, from the innermost, and one for the block around. -/
structure Reading where
  cursor : Cursor
  tokens : List Token
  count : Nat
  indents : List Nat
  keys : List (Option KeyStart)
  mayStartKey : Bool
deriving Inhabited

namespace Reading

def start (s : Text) : Reading := ⟨Cursor.start s, [], 0, [], [none], true⟩

def inFlow (r : Reading) : Bool := 1 < r.keys.length

def add (r : Reading) (t : Token) : Reading :=
  { r with tokens := t :: r.tokens, count := r.count + 1 }

def move (r : Reading) (c : Cursor) : Reading := { r with cursor := c }

def allowKey (r : Reading) (allowed : Bool) : Reading := { r with mayStartKey := allowed }

def insert (r : Reading) (n : Nat) (t : Token) : Reading :=
  let later := r.count - n
  { r with tokens := r.tokens.take later ++ t :: r.tokens.drop later, count := r.count + 1 }

def within (r : Reading) (column : Nat) : Bool :=
  match r.indents with
  | [] => false
  | i :: _ => column ≤ i

def closeBlocks (p : Nat → Bool) (r : Reading) : Reading :=
  if r.inFlow then r
  else
    let closed := (r.indents.takeWhile p).length
    { r with
      tokens := List.replicate closed .blockEnd ++ r.tokens
      count := r.count + closed
      indents := r.indents.drop closed }

def isStale (c : Cursor) (k : KeyStart) : Bool := k.line != c.line || 1024 < c.index - k.index

/-- Forgets the keys that satisfy `p`; a required one may not be forgotten. -/
def forgetKeys (p : KeyStart → Bool) : List (Option KeyStart) →
    Except Failure (List (Option KeyStart))
  | [] => .ok []
  | none :: keys => (forgetKeys p keys).map (none :: ·)
  | some k :: keys =>
    if p k then
      if k.required then .error .malformedYaml else (forgetKeys p keys).map (none :: ·)
    else (forgetKeys p keys).map (some k :: ·)

def dropStaleKeys (r : Reading) : Except Failure Reading := do
  return { r with keys := ← forgetKeys (isStale r.cursor) r.keys }

def dropKey (r : Reading) : Except Failure Reading := do
  match r.keys with
  | [] => return r
  | k :: keys => return { r with keys := (← forgetKeys (fun _ => true) [k]) ++ keys }

def noteKey (r : Reading) : Except Failure Reading := do
  if !r.mayStartKey then return r
  let r ← r.dropKey
  let c := r.cursor
  let required := !r.inFlow && r.indents.head? == some c.column
  return { r with keys := some ⟨r.count, required, c.index, c.line, c.column⟩ :: r.keys.drop 1 }

def openBlock (r : Reading) (column : Nat) (t : Token) : Reading :=
  if r.inFlow || r.within column then r
  else { r.add t with indents := column :: r.indents }

def skipGaps : Nat → Reading → Reading
  | 0, r => r
  | fuel + 1, r =>
    let c := r.cursor.skipSpaces.skipComment
    if c.atBreak then skipGaps fuel ((r.move c.next).allowKey (r.mayStartKey || !r.inFlow))
    else r.move c

def closeAll (r : Reading) : Except Failure Reading := (r.closeBlocks fun _ => true).dropKey

def readMarks (t : Token) (r : Reading) : Except Failure Reading := do
  let r ← r.closeAll
  return ((r.move (r.cursor.skip 3)).allowKey false).add t

def readDirectiveLine (r : Reading) : Except Failure Reading := do
  let r ← r.closeAll
  let d ← readDirective r.cursor
  return ((r.move d.cursor).allowKey false).add (.directive d.value)

def openFlow (t : Token) (r : Reading) : Except Failure Reading := do
  let r ← r.noteKey
  let r := (r.move r.cursor.next).allowKey true
  return { r.add t with keys := none :: r.keys }

def closeFlow (t : Token) (r : Reading) : Except Failure Reading := do
  if !r.inFlow then throw .malformedYaml
  let r ← r.dropKey
  let r := (r.move r.cursor.next).allowKey false
  return { r.add t with keys := r.keys.drop 1 }

def readFlowEntry (r : Reading) : Except Failure Reading := do
  let r ← r.dropKey
  return ((r.move r.cursor.next).allowKey true).add .flowEntry

def startEntry (r : Reading) (block : Token) : Except Failure Reading :=
  if r.inFlow then .ok r
  else if r.mayStartKey then .ok (r.openBlock r.cursor.column block)
  else .error .malformedYaml

def readEntry (r : Reading) : Except Failure Reading := do
  let r ← r.startEntry .blockSequence
  let r ← r.dropKey
  return ((r.move r.cursor.next).allowKey true).add .entry

def readKey (r : Reading) : Except Failure Reading := do
  let r ← r.startEntry .blockMapping
  let r ← r.dropKey
  return ((r.move r.cursor.next).allowKey (!r.inFlow)).add .key

def readValue (r : Reading) : Except Failure Reading := do
  match r.keys with
  | some k :: keys =>
    let r := ({ r with keys := none :: keys }).insert k.count .key
    let r := if r.inFlow || r.within k.column then r
      else { r.insert k.count .blockMapping with indents := k.column :: r.indents }
    return ((r.move r.cursor.next).allowKey false).add .value
  | _ => do
    let r ← r.startEntry .blockMapping
    return ((r.move r.cursor.next).allowKey (!r.inFlow)).add .value

def readNamed (token : Text → Token) (r : Reading) : Except Failure Reading := do
  let r ← r.noteKey
  let name ← readAnchor r.cursor.next
  return ((r.move name.cursor).allowKey false).add (token name.value)

def readTagged (r : Reading) : Except Failure Reading := do
  let r ← r.noteKey
  let t ← readTag r.cursor
  return ((r.move t.cursor).allowKey false).add (.tag t.value)

def innerIndent (r : Reading) : Nat := (r.indents.head?.map (· + 1)).getD 0

def readBlockScalar (folded : Bool) (r : Reading) : Except Failure Reading := do
  let r ← r.dropKey
  let s ← readBlock folded (max 1 r.innerIndent) r.cursor.next
  return ((r.move s.cursor).allowKey true).add (.scalar s.text false)

def readQuotedScalar (quote : Char) (r : Reading) : Except Failure Reading := do
  let r ← r.noteKey
  let s ← readQuoted quote r.cursor.next
  return ((r.move s.cursor).allowKey false).add (.scalar s.text false)

def readPlainScalar (r : Reading) : Except Failure Reading := do
  let r ← r.noteKey
  let (s, crossed) := readPlain r.inFlow r.innerIndent r.cursor
  return ((r.move s.cursor).allowKey crossed).add (.scalar s.text true)

def isReserved (x : Char) : Bool :=
  [',', '[', ']', '\x7b', '\x7d', '#', '&', '*', '!', '|', '>', '\'', '"', '%', '@', '`'].contains x

def startsPlain (r : Reading) (x : Char) : Bool :=
  if x == '-' then !r.cursor.standsAlone
  else if x == '?' || x == ':' then !r.inFlow && !r.cursor.standsAlone
  else !isSeparation x && !isReserved x

def isMarkHere (r : Reading) : Bool := r.inFlow || r.cursor.standsAlone

def readAt (r : Reading) (x : Char) : Except Failure Reading :=
  let c := r.cursor
  if x == '%' && c.column == 0 then r.readDirectiveLine
  else if c.column == 0 && c.atMarks '-' then r.readMarks .documentStart
  else if c.column == 0 && c.atMarks '.' then r.readMarks .documentEnd
  else if x == '[' then r.openFlow .flowSequence
  else if x == '\x7b' then r.openFlow .flowMapping
  else if x == ']' then r.closeFlow .flowSequenceEnd
  else if x == '\x7d' then r.closeFlow .flowMappingEnd
  else if x == ',' then r.readFlowEntry
  else if x == '-' && c.standsAlone then r.readEntry
  else if x == '?' && r.isMarkHere then r.readKey
  else if x == ':' && r.isMarkHere then r.readValue
  else if x == '*' then r.readNamed .alias
  else if x == '&' then r.readNamed .anchor
  else if x == '!' then r.readTagged
  else if x == '|' && !r.inFlow then r.readBlockScalar false
  else if x == '>' && !r.inFlow then r.readBlockScalar true
  else if x == '\'' || x == '"' then r.readQuotedScalar x
  else if r.startsPlain x then r.readPlainScalar
  else .error .malformedYaml

def readAll : Nat → Reading → Except Failure Reading
  | 0, _ => .error .malformedYaml
  | fuel + 1, r => do
    let r ← (r.skipGaps (r.cursor.rest.length + 1)).dropStaleKeys
    match r.cursor.rest with
    | [] => r.closeAll
    | x :: _ => do
      let r := r.closeBlocks (r.cursor.column < ·)
      readAll fuel (← r.readAt x)

end Reading

def isReadable (s : Text) : Bool := s.all fun x =>
  let n := x.toNat
  n == 9 || n == 10 || n == 13 || (0x20 ≤ n && n ≤ 0x7E) || n == 0x85 || (0xA0 ≤ n && n ≤ 0xD7FF)
    || (0xE000 ≤ n && n ≤ 0xFFFD) || 0x10000 ≤ n

def tokens (s : Text) : Except Failure (List Token) := do
  if !isReadable s then throw .malformedYaml
  let c := Cursor.start s
  let c := if c.atChar Cursor.orderMark then c.next else c
  let r ← Reading.readAll (s.length + 2) ((Reading.start s).move c)
  return r.tokens.reverse

end LitNote.Yaml
