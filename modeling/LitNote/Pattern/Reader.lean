import LitNote.Number.Integer
import LitNote.Pattern.Item
import LitNote.Pattern.Search
import LitNote.Text.Identifier
import LitNote.Text.Name.Lookup

/-!
The notation of patterns.  A reader goes over the signs of a pattern and keeps account of groups,
names and flags.
-/

namespace LitNote.Pattern

/-- A pattern in reading.  `widths` has an entry for each group, filled when the group closes. -/
structure Reader where
  rest : List Sign
  widths : List (Option Width)
  names : List (Text × Nat)
  behindFrom : Option Nat
  flags : Flags
  referred : List Nat
  faulty : Bool
deriving Repr, Inhabited

abbrev Reading (α : Type) := StateT Reader (Except Fault) α

namespace Reading

def fail {α : Type} (f : Fault) : Reading α := fun _ => .error f

def malformed {α : Type} : Reading α := fail .malformed

def peek : Reading (Option Sign) := do return (← get).rest.head?

def peekPlain : Reading (Option Char) := do return (← peek).bind Sign.plain?

def goTo (rest : List Sign) : Reading Unit := do
  if rest.head? == some .dangling then malformed
  modify fun r => { r with rest := rest }

def take : Reading (Option Sign) := do
  let r ← get
  goTo r.rest.tail
  return r.rest.head?

def takePlain : Reading (Option Char) := do return (← take).bind Sign.plain?

def accept (c : Char) : Reading Bool := do
  if (← peek) == some (.char c) then
    let _ ← take
    return true
  else return false

def expect (c : Char) : Reading Unit := do
  if !(← accept c) then malformed

def takeWhile (p : Char → Bool) : Nat → Reading Text
  | 0 => return []
  | n + 1 => do
    match ← peekPlain with
    | some c =>
      if p c then
        let _ ← take
        return c :: (← takeWhile p n)
      else return []
    | none => return []

def takeDigits : Reading Text := do takeWhile Text.isAsciiDigit (← get).rest.length

def takeUntil (stop : Char) : Reading Text := do
  match Sign.spanUntil stop (← get).rest with
  | some (c :: s, rest) => goTo rest; return c :: s
  | _ => malformed

def isHexDigit (c : Char) : Bool :=
  Text.isAsciiDigit c || (65 ≤ c.toNat && c.toNat ≤ 70) || (97 ≤ c.toNat && c.toNat ≤ 102)

def isOctalDigit (c : Char) : Bool := 48 ≤ c.toNat && c.toNat ≤ 55

def digitOf (c : Char) : Nat :=
  if Text.isAsciiDigit c then c.toNat - 48
  else if c.toNat ≤ 70 then c.toNat - 55 else c.toNat - 87

def ofBase (base : Nat) (s : Text) : Nat := s.foldl (fun n c => n * base + digitOf c) 0

def hexCode (width : Nat) : Reading Nat := do
  let s ← takeWhile isHexDigit width
  let n := ofBase 16 s
  if s.length ≠ width ∨ n > 0x10FFFF then malformed else return n

def control? (c : Char) : Option Nat :=
  match c with
  | 'a' => some 7
  | 'f' => some 12
  | 'n' => some 10
  | 'r' => some 13
  | 't' => some 9
  | 'v' => some 11
  | '\\' => some 92
  | _ => none

def class? (c : Char) : Option SetItem :=
  match c with
  | 'd' => some (.ofClass .digit false)
  | 'D' => some (.ofClass .digit true)
  | 's' => some (.ofClass .blank false)
  | 'S' => some (.ofClass .blank true)
  | 'w' => some (.ofClass .word false)
  | 'W' => some (.ofClass .word true)
  | _ => none

def namedCode : Reading Nat := do
  expect '\x7b'
  match Text.Name.code? (← takeUntil '\x7d') with
  | some code => return code
  | none => malformed

def charEscape (c : Char) : Reading Nat := do
  match c with
  | 'x' => hexCode 2
  | 'u' => hexCode 4
  | 'U' => hexCode 8
  | 'N' => namedCode
  | c => if Text.isAsciiLetter c then malformed else return c.toNat

def octalCode (first : Char) : Reading Nat := do
  let n := ofBase 8 (first :: (← takeWhile isOctalDigit 2))
  if n > 255 then malformed else return n

def setEscape (c : Char) : Reading SetItem := do
  if let some n := control? c then return .char n
  if c == 'b' then return .char 8
  if let some item := class? c then return item
  if isOctalDigit c then return .char (← octalCode c)
  if Text.isAsciiDigit c then malformed
  return .char (← charEscape c)

def setSign : Sign → Reading SetItem
  | .char c => return .char c.toNat
  | .escaped c => setEscape c
  | .dangling => malformed

/-- The members of a set up to its closing bracket, which may stand first as a member. -/
def setItems : Nat → List SetItem → Reading (List SetItem)
  | 0, _ => malformed
  | fuel + 1, items => do
    match ← take with
    | none => malformed
    | some sign =>
      if sign == .char ']' && !items.isEmpty then return items
      let first ← setSign sign
      if ← accept '-' then
        match ← take with
        | none => malformed
        | some (.char ']') => return items ++ [first, .char '-'.toNat]
        | some sign =>
          match first, ← setSign sign with
          | .char a, .char b =>
            if b < a then malformed else setItems fuel (items ++ [.range a b])
          | _, _ => malformed
      else setItems fuel (items ++ [first])

def bracketed (flags : Flags) : Reading Item := do
  let negated ← accept '^'
  let items ← setItems (← get).rest.length.succ []
  return .bracketed flags items negated

def closedWidth? (r : Reader) (index : Nat) : Option Width :=
  if index = 0 then none else (r.widths[index - 1]?).join

/-- A group may be referred to when it has closed, and not from within the look back that holds
it. -/
def checkReference (index : Nat) : Reading Unit := do
  let r ← get
  match r.behindFrom with
  | some first => if (closedWidth? r index).isNone || first ≤ index then malformed
  | none => return

def reference (flags : Flags) (index : Nat) : Reading Item := do
  match closedWidth? (← get) index with
  | some width =>
    checkReference index
    return ⟨.same index flags.rule, width, .reference⟩
  | none => malformed

def digitEscape (flags : Flags) (c : Char) : Reading Item := do
  match ← peekPlain with
  | some d =>
    if Text.isAsciiDigit d then
      let _ ← take
      let third ← peekPlain
      if isOctalDigit c && isOctalDigit d && third.any isOctalDigit then
        let _ ← take
        let n := ofBase 8 [c, d, third.getD '0']
        if n > 255 then malformed else return .ofCode flags n
      else reference flags (ofBase 10 [c, d])
    else reference flags (digitOf c)
  | none => reference flags (digitOf c)

def escape (flags : Flags) (c : Char) : Reading Item := do
  match c with
  | 'A' => return .ofAnchor .textStart
  | 'Z' => return .ofAnchor .textEnd
  | 'b' => return .ofAnchor (.wordEdge flags.ascii false)
  | 'B' => return .ofAnchor (.wordEdge flags.ascii true)
  | '0' => return .ofCode flags (ofBase 8 (← takeWhile isOctalDigit 2))
  | c =>
    if let some item := class? c then return .ofSet flags [item] false
    if let some n := control? c then return .ofCode flags n
    if Text.isAsciiDigit c then digitEscape flags c
    else return .ofCode flags (← charEscape c)

def maxRepeat : Nat := 4294967295

def count (digits : Text) : Reading Nat := do
  let n := ofBase 10 digits
  if digits.length > Integer.maxDigits || n ≥ maxRepeat then fail .refused else return n

def bounds : Reading (Option (Nat × Option Nat)) := do
  let start := (← get).rest
  if (← peek) == some (.char '\x7d') then return none
  let low ← takeDigits
  let high ← if ← accept ',' then takeDigits else pure low
  if !(← accept '\x7d') then
    goTo start
    return none
  let least ← if low.isEmpty then pure 0 else count low
  if high.isEmpty then return some (least, none)
  let most ← count high
  if most < least then malformed else return some (least, some most)

def greed : Reading Greed := do
  if ← accept '?' then return .least
  else if ← accept '+' then return .all
  else return .most

/-- What a repetition may follow: an item, or the items of a group that changes nothing. -/
structure Piece where
  items : List Item
  grouped : Bool
deriving Repr, Inhabited

def Piece.single (item : Item) : Piece := ⟨[item], false⟩

def itemsOf (pieces : List Piece) : List Item := pieces.reverse.flatMap (·.items)

def quantify (least : Nat) (most : Option Nat) : List Piece → Reading (List Piece)
  | [] => malformed
  | piece :: pieces => do
    let fixed := fun (item : Item) => item.kind == .anchor || item.kind == .repeated
    if !piece.grouped && piece.items.any fixed then malformed
    let g ← greed
    let width := (Item.widthOf piece.items).repeated least most
    return .single ⟨.repeated least most g (Item.sequence piece.items), width, .repeated⟩ :: pieces

def openGroup (name : Option Text) : Reading Nat := do
  let r ← get
  let index := r.widths.length + 1
  match name with
  | none => set { r with widths := r.widths ++ [none] }
  | some name =>
    if r.names.any (·.1 == name) then malformed
    set { r with widths := r.widths ++ [none], names := (name, index) :: r.names }
  return index

def closeGroup (index : Nat) (w : Width) : Reading Unit :=
  modify fun r => { r with widths := r.widths.set (index - 1) (some w) }

def groupName (stop : Char) : Reading Text := do
  let name ← takeUntil stop
  if Text.isIdentifier name then return name else malformed

def namedGroup (name : Text) : Reading Nat := do
  match (← get).names.find? (·.1 == name) with
  | some (_, index) => return index
  | none => malformed

def condition : Reading Nat := do
  let name ← takeUntil ')'
  let index ← if Text.isIdentifier name then namedGroup name
    else match Integer.read name with
      | .ok n => if n ≤ 0 then malformed else do
          modify fun r => { r with referred := n.toNat :: r.referred }
          pure n.toNat
      | .error _ => malformed
  let r ← get
  if r.behindFrom.isSome then checkReference index
  return index

def flagLetters (drop : Bool) : Nat → Flags → Char → Reading (Flags × Char)
  | 0, _, _ => malformed
  | fuel + 1, flags, c => do
    match Flags.ofLetter? c with
    | none => malformed
    | some flag =>
      if drop && (flag.ascii || flag.unicode) then malformed
      let flags := flags.union flag
      if flags.ascii && flags.unicode then malformed
      match ← takePlain with
      | none => malformed
      | some d =>
        if d == ':' || (!drop && (d == ')' || d == '-')) then return (flags, d)
        else flagLetters drop fuel flags d

def flagGroup (c : Char) : Reading (Option (Flags × Flags)) := do
  let fuel := (← get).rest.length + 1
  let (add, stop) ← if c == '-' then pure (Flags.none, '-') else flagLetters false fuel Flags.none c
  if stop == ')' then
    modify fun r => { r with flags := r.flags.union add }
    return none
  if add.template then malformed
  if stop == ':' then return some (add, Flags.none)
  match ← takePlain with
  | none => malformed
  | some c =>
    let (drop, _) ← flagLetters true fuel Flags.none c
    if drop.template || add.meets drop then malformed
    return some (add, drop)

def isVerboseBlank (c : Char) : Bool := (9 ≤ c.toNat && c.toNat ≤ 13) || c == ' '

inductive Opening where
  | group (name : Option Text)
  | plain
  | atomic
  | flagged (add drop : Flags)
  | wholeFlags
  | comment
  | back (item : Item)
  | look (forward negated : Bool)
  | branch (index : Nat)
deriving Inhabited

def openingAfterName (flags : Flags) : Reading Opening := do
  if ← accept '<' then return .group (some (← groupName '>'))
  else if ← accept '=' then
    let index ← namedGroup (← groupName ')')
    return .back (← reference flags index)
  else malformed

def openingLookBack : Reading Opening := do
  match ← takePlain with
  | some '=' => return .look false false
  | some '!' => return .look false true
  | _ => malformed

def skipComment : Reading Opening := do
  if ← accept ')' then return .comment
  match Sign.spanUntil ')' (← get).rest with
  | some (_, rest) => goTo rest; return .comment
  | none => malformed

def opening (flags : Flags) : Reading Opening := do
  if !(← accept '?') then return .group none
  match ← takePlain with
  | some 'P' => openingAfterName flags
  | some ':' => return .plain
  | some '#' => skipComment
  | some '=' => return .look true false
  | some '!' => return .look true true
  | some '<' => openingLookBack
  | some '(' => return .branch (← condition)
  | some '>' => return .atomic
  | some c =>
    if c == '-' || (Flags.ofLetter? c).isSome then
      match ← flagGroup c with
      | some (add, drop) => return .flagged add drop
      | none => return .wholeFlags
    else malformed
  | none => malformed

def note (fault : Bool) : Reading Unit := do
  if fault then modify fun r => { r with faulty := true }

def look (forward negated : Bool) (items : List Item) : Reading Item := do
  let body := Item.sequence items
  let width := Item.widthOf items
  if forward then return ⟨.ahead body negated, ⟨0, 0⟩, .enclosed⟩
  note (width.low ≠ width.high || width.low > maxRepeat)
  return ⟨.behind width.low body negated, ⟨0, 0⟩, .enclosed⟩

mutual

def alternatives : Nat → Nat → Bool → Flags → Reading (List Item)
  | 0, _, _, _ => fail .refused
  | fuel + 1, room, outermost, flags => do
    if room = 0 then fail .refused
    let flags ← if outermost then pure (← get).flags else pure flags
    let first ← sequence fuel (room - 1) outermost flags []
    let flags ← if outermost then pure (← get).flags else pure flags
    let others ← moreAlternatives fuel room flags
    return Item.alternatives flags first others

def moreAlternatives : Nat → Nat → Flags → Reading (List (List Item))
  | 0, _, _ => fail .refused
  | fuel + 1, room, flags => do
    if ← accept '|' then
      let items ← sequence fuel (room - 1) false flags []
      return items :: (← moreAlternatives fuel room flags)
    else return []

/-- A sequence up to a bar, a closing parenthesis or the end; `pieces` holds it in reverse. -/
def sequence : Nat → Nat → Bool → Flags → List Piece → Reading (List Item)
  | 0, _, _, _, _ => fail .refused
  | fuel + 1, room, first, flags, pieces => do
    let goOn := fun (flags : Flags) (pieces : List Piece) => sequence fuel room first flags pieces
    match ← peek with
    | none => return itemsOf pieces
    | some (.char '|') => return itemsOf pieces
    | some (.char ')') => return itemsOf pieces
    | some .dangling => malformed
    | some (.escaped c) =>
      let _ ← take
      let item ← escape flags c
      goOn flags (.single item :: pieces)
    | some (.char c) =>
      let _ ← take
      if flags.verbose && isVerboseBlank c then goOn flags pieces
      else if flags.verbose && c == '#' then
        goTo (Sign.afterLine (← get).rest)
        goOn flags pieces
      else match c with
      | '[' =>
        let item ← bracketed flags
        goOn flags (.single item :: pieces)
      | '.' => goOn flags (.single (.unit (.any flags.dotAll)) :: pieces)
      | '^' => goOn flags (.single (.ofAnchor (.start flags.multiline)) :: pieces)
      | '$' => goOn flags (.single (.ofAnchor (.stop flags.multiline)) :: pieces)
      | '?' => goOn flags (← quantify 0 (some 1) pieces)
      | '*' => goOn flags (← quantify 0 none pieces)
      | '+' => goOn flags (← quantify 1 none pieces)
      | '\x7b' =>
        match ← bounds with
        | some (least, most) => goOn flags (← quantify least most pieces)
        | none => goOn flags (.single (.ofCode flags c.toNat) :: pieces)
      | '(' =>
        match ← opening flags with
        | .comment => goOn flags pieces
        | .wholeFlags =>
          if !first || !pieces.isEmpty then malformed
          goOn (← get).flags pieces
        | .back item => goOn flags (.single item :: pieces)
        | opened =>
          let piece ← parenthesized fuel room flags opened
          goOn flags (piece :: pieces)
      | c => goOn flags (.single (.ofCode flags c.toNat) :: pieces)

def parenthesized : Nat → Nat → Flags → Opening → Reading Piece
  | 0, _, _, _ => fail .refused
  | fuel + 1, room, flags, opened => do
    if room = 0 then fail .refused
    let room := room - 1
    match opened with
    | .group name =>
      let index ← openGroup name
      let items ← alternatives fuel room false flags
      expect ')'
      let width := Item.widthOf items
      closeGroup index width
      return .single ⟨.group index (Item.sequence items), width, .enclosed⟩
    | .atomic =>
      let items ← alternatives fuel room false flags
      expect ')'
      return .single ⟨.atomic (Item.sequence items), Item.widthOf items, .enclosed⟩
    | .flagged add drop =>
      let items ← alternatives fuel room false (flags.within add drop)
      expect ')'
      return .single ⟨Item.sequence items, Item.widthOf items, .enclosed⟩
    | .look forward negated =>
      let before := (← get).behindFrom
      if !forward && before.isNone then
        modify fun r => { r with behindFrom := some (r.widths.length + 1) }
      let items ← alternatives fuel room false flags
      if !forward then modify fun r => { r with behindFrom := before }
      expect ')'
      return .single (← look forward negated items)
    | .branch index =>
      let yes ← sequence fuel room false flags []
      if ← accept '|' then
        let no ← sequence fuel room false flags []
        expect ')'
        let width := (Item.widthOf yes).either (Item.widthOf no)
        return .single ⟨.branch index (Item.sequence yes) (Item.sequence no), width, .enclosed⟩
      else
        expect ')'
        let width : Width := ⟨0, (Item.widthOf yes).high⟩
        return .single ⟨.branch index (Item.sequence yes) .nothing, width, .enclosed⟩
    | _ =>
      let items ← alternatives fuel room false flags
      expect ')'
      return ⟨items, true⟩

end

def repeats : Pattern → Bool
  | .repeated .. => true
  | .seq a b => repeats a || repeats b
  | .alt a b => repeats a || repeats b
  | .group _ body => repeats body
  | .ahead body _ => repeats body
  | .behind _ body _ => repeats body
  | .atomic body => repeats body
  | .branch _ yes no => repeats yes || repeats no
  | _ => false

/-- How deep parentheses may be nested, where alternatives and sequences count each. -/
def nesting : Nat := 984

def whole (fuel : Nat) : Reading Searcher := do
  goTo (← get).rest
  let pattern := Item.sequence (← alternatives fuel nesting true Flags.none)
  let r ← get
  if r.flags.ascii && r.flags.unicode then fail .refused
  if !r.rest.isEmpty then malformed
  if r.referred.any (· > r.widths.length) then malformed
  if r.faulty || (r.flags.template && repeats pattern) then malformed
  return ⟨pattern, pattern.leadingSet? r.flags.ascii⟩

end Reading

def ofText (s : Text) : Except Fault Searcher := do
  let signs := Sign.ofText s
  let reader : Reader := ⟨signs, [], [], none, Flags.none, [], false⟩
  let (searcher, _) ← (Reading.whole (4 * signs.length + 8)).run reader
  return searcher

end LitNote.Pattern
