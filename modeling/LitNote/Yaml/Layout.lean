import LitNote.Text.Quoted
import LitNote.Yaml.Look
import LitNote.Yaml.Node

/-!
The written form of nodes: one entry or item a line, scalars as plain as they can be, lines broken
at spaces beyond column 80.
-/

namespace LitNote.Yaml

/-- What has been written, in reverse, and where that leaves the line.  `spaced` says that a space
or nothing comes before, `indented` that the line holds only what belongs to its indentation. -/
structure Page where
  written : Text
  column : Nat
  spaced : Bool
  indented : Bool
deriving Repr, Inhabited

namespace Page

def lineWidth : Nat := 80

def blank : Page := ⟨[], 0, true, true⟩

def put (p : Page) (s : Text) : Page :=
  { p with written := s.reverse ++ p.written, column := p.column + s.length }

def mark (p : Page) (s : Text) (needsSpace spaced indented : Bool) : Page :=
  let p := p.put (if p.spaced || !needsSpace then s else ' ' :: s)
  { p with spaced := spaced, indented := p.indented && indented }

def breakLine (p : Page) (c : Char) : Page := ⟨c :: p.written, 0, true, true⟩

def indent (p : Page) (n : Nat) : Page :=
  let p := if !p.indented || n < p.column || (p.column == n && !p.spaced) then p.breakLine '\n'
    else p
  if p.column < n then { p.put (List.replicate (n - p.column) ' ') with spaced := true } else p

def inScalar (p : Page) : Page := { p with spaced := false, indented := false }

def full (p : Page) : Bool := lineWidth < p.column

end Page

inductive Gathered where
  | spaces
  | breaks
  | others
deriving Repr, DecidableEq, Inhabited

def Gathered.of (c : Char) : Gathered :=
  if c == ' ' then .spaces else if isBreak c then .breaks else .others

def runs : Text → List (Gathered × Text)
  | [] => []
  | c :: rest =>
    match runs rest with
    | (kind, run) :: more =>
      if kind == Gathered.of c then (kind, c :: run) :: more
      else (Gathered.of c, [c]) :: (kind, run) :: more
    | [] => [(Gathered.of c, [c])]

def writePlainRuns (indent : Nat) (split : Bool) (p : Page) : List (Gathered × Text) → Page
  | [] => p
  | (kind, run) :: more =>
    let p :=
      if kind == .spaces && run.length == 1 && p.full && split then (p.indent indent).inScalar
      else p.put run
    writePlainRuns indent split p more

def writePlain (indent : Nat) (split : Bool) (s : Text) (p : Page) : Page :=
  if s.isEmpty then p
  else writePlainRuns indent split ((if p.spaced then p else p.put [' ']).inScalar) (runs s)

def writeBreaks (indent : Nat) (run : Text) (p : Page) : Page :=
  let p := if run.head? == some '\n' then p.breakLine '\n' else p
  (run.foldl (fun p c => p.breakLine c) p).indent indent

def doubleApostrophes (s : Text) : Text :=
  s.flatMap fun c => if c == '\'' then ['\'', '\''] else [c]

def writeQuotedRuns (indent : Nat) (split first : Bool) (p : Page) :
    List (Gathered × Text) → Page
  | [] => p
  | (kind, run) :: more =>
    let p := match kind with
      | .spaces =>
        if run.length == 1 && p.full && split && !first && !more.isEmpty then p.indent indent
        else p.put run
      | .breaks => writeBreaks indent run p
      | .others => p.put (doubleApostrophes run)
    writeQuotedRuns indent split false p more

def writeSingleQuoted (indent : Nat) (split : Bool) (s : Text) (p : Page) : Page :=
  (writeQuotedRuns indent split true (p.mark ['\''] true false false) (runs s)).mark ['\''] false
    false false

def escapeLetters : List (Nat × Char) :=
  [(0, '0'), (7, 'a'), (8, 'b'), (9, 't'), (10, 'n'), (11, 'v'), (12, 'f'), (13, 'r'), (27, 'e'),
    (34, '"'), (92, '\\'), (0x85, 'N'), (0xA0, '_'), (0x2028, 'L'), (0x2029, 'P')]

def upperHex (width n : Nat) : Text := (Text.hexDigits width n).map Char.toUpper

def standsAlone (c : Char) : Bool :=
  let n := c.toNat
  ((0x20 ≤ n && n ≤ 0x7E) || (0xA0 ≤ n && n ≤ 0xD7FF) || (0xE000 ≤ n && n ≤ 0xFFFD))
    && !(c == '"' || c == '\\' || n == 0x2028 || n == 0x2029 || n == 0xFEFF)

def escape (c : Char) : Text :=
  match escapeLetters.find? (·.1 == c.toNat) with
  | some (_, letter) => ['\\', letter]
  | none =>
    if c.toNat ≤ 0xFF then '\\' :: 'x' :: upperHex 2 c.toNat
    else if c.toNat ≤ 0xFFFF then '\\' :: 'u' :: upperHex 4 c.toNat
    else '\\' :: 'U' :: upperHex 8 c.toNat

/-- Breaks the line within quotation marks.  A space that follows is escaped, or it would get
lost. -/
def breakQuoted (indent : Nat) (next : Option Char) (p : Page) : Page :=
  let p := ((p.put ['\\']).indent indent).inScalar
  if next == some ' ' then p.put ['\\'] else p

/-- The characters between quotation marks.  `held` holds in reverse those that stand for themselves
and have not been written yet.  An escape may reach one column further than they do. -/
def writeDoubleChars (indent : Nat) (split first : Bool) (held : Text) (p : Page) : Text → Page
  | [] => p.put held.reverse
  | c :: rest =>
    let alone := standsAlone c
    let p := if alone then p else (p.put held.reverse).put (escape c)
    let held := if alone then held else []
    let mayBreak := !first && !rest.isEmpty && split && (c == ' ' || !alone || held.isEmpty)
    let width := if alone then Page.lineWidth else Page.lineWidth + 1
    if mayBreak && width < p.column + held.length then
      let p := p.put held.reverse
      if alone then writeDoubleChars indent split false [c] (breakQuoted indent (some c) p) rest
      else writeDoubleChars indent split false [] (breakQuoted indent rest.head? p) rest
    else writeDoubleChars indent split false (if alone then c :: held else []) p rest

def writeDoubleQuoted (indent : Nat) (split : Bool) (s : Text) (p : Page) : Page :=
  (writeDoubleChars indent split true [] (p.mark ['"'] true false false) s).mark ['"'] false false
    false

def writeLines (indent : Nat) (s : Text) (p : Page) : Page :=
  (Text.splitAtChar '\n' s).dropLast.foldl
    (fun p line => ((p.indent indent).put line).breakLine '\n')
    ((p.mark ['|'] true false false).breakLine '\n')

inductive Style where
  | plain
  | single
  | double
  | lines
deriving Repr, DecidableEq, Inhabited

/-- The plainest style in which a scalar keeps its tag.  Bytes stand in lines of their own. -/
def styleOf (key : Bool) (tag : Tag) (s : Text) : Style :=
  if tag == .binary && !key && !s.isEmpty then .lines
  else if Plain.tag s == tag && allowsPlain s && !(key && (s.isEmpty || isMultiline s)) then .plain
  else if allowsSingleQuotes s && !(key && isMultiline s) then .single
  else .double

/-- The tag has to be written if the style would give the scalar another one. -/
def needsTag (style : Style) (tag : Tag) (s : Text) : Bool :=
  match style with
  | .plain => Plain.tag s != tag
  | _ => tag != .text

def tagText (tag : Tag) : Text := '!' :: '!' :: tag.shortName

def writeScalar (indent : Nat) (key : Bool) (tag : Tag) (s : Text) (p : Page) : Page :=
  let style := styleOf key tag s
  let p := if needsTag style tag s then p.mark (tagText tag) true false false else p
  match style with
  | .plain => writePlain indent (!key) s p
  | .single => writeSingleQuoted indent (!key) s p
  | .double => writeDoubleQuoted indent (!key) s p
  | .lines => writeLines indent s p

inductive Setting where
  | root
  | item
  | key
  | entry
deriving Repr, DecidableEq, Inhabited

structure Sheet where
  page : Page
  shared : List Place
  written : List Place
deriving Inhabited

namespace Sheet

def on (s : Sheet) (f : Page → Page) : Sheet := { s with page := f s.page }

def nameOf (s : Sheet) (place : Place) : Option Text :=
  (s.shared.findIdx? (· == place)).map fun i => "id".toList ++ paddedNat 3 (i + 1)

def named? (s : Sheet) (place : Option Place) : Option (Text × Bool) := do
  let p ← place
  let name ← s.nameOf p
  return (name, s.written.contains p)

def noteWritten (s : Sheet) (place : Option Place) : Sheet :=
  match place with
  | some p => { s with written := p :: s.written }
  | none => s

def writeNamed (s : Sheet) (place : Option Place) (write : Sheet → Sheet) : Sheet :=
  match s.named? place with
  | none => write s
  | some (name, true) => s.on (·.mark ('*' :: name) true false false)
  | some (name, false) => write ((s.on (·.mark ('&' :: name) true false false)).noteWritten place)

def isShortKey (s : Sheet) (key : Node) : Bool :=
  let name := s.named? key.place?
  let nameLength := (name.map (·.1.length)).getD 0
  match name with
  | some (_, true) => nameLength < 128
  | _ => match key with
    | .scalar _ tag text =>
      nameLength + (tagText tag).length + text.length < 128 && !text.isEmpty && !isMultiline text
    | .sequence _ items => nameLength + 5 < 128 && items.isEmpty
    | .mapping _ entries => nameLength + 5 < 128 && entries.isEmpty

end Sheet

def deeper (indent : Option Nat) (root : Nat) : Nat := (indent.map (· + 2)).getD root

mutual

def writeNode (indent : Option Nat) (setting : Setting) (s : Sheet) : Node → Sheet
  | .scalar place tag text => s.writeNamed place fun s =>
    s.on (writeScalar (deeper indent 2) (setting == .key) tag text)
  | .sequence place items => s.writeNamed place fun s =>
    match items with
    | [] => s.on fun p => (p.mark ['['] true true false).mark [']'] false false false
    | items =>
      let level := if (setting == .key || setting == .entry) && !s.page.indented
        then indent.getD 0 else deeper indent 0
      writeItems level s items
  | .mapping place entries => s.writeNamed place fun s =>
    match entries with
    | [] => s.on fun p => (p.mark ['\x7b'] true true false).mark ['\x7d'] false false false
    | entries => writeEntries (deeper indent 0) s entries

def writeItems (indent : Nat) (s : Sheet) : List Node → Sheet
  | [] => s
  | item :: items =>
    let s := s.on fun p => (p.indent indent).mark ['-'] true false true
    writeItems indent (writeNode (some indent) .item s item) items

def writeEntries (indent : Nat) (s : Sheet) : List (Node × Node) → Sheet
  | [] => s
  | (key, value) :: entries =>
    let s := s.on (·.indent indent)
    let s :=
      if s.isShortKey key then
        (writeNode (some indent) .key s key).on (·.mark [':'] false false false)
      else
        let s := writeNode (some indent) .entry (s.on (·.mark ['?'] true false true)) key
        s.on fun p => (p.indent indent).mark [':'] true false true
    writeEntries indent (writeNode (some indent) .entry s value) entries

end

def write (n : Node) : Text :=
  let s := writeNode none .root ⟨.blank, n.shared, []⟩ n
  (s.page.indent 0).written.reverse

end LitNote.Yaml
