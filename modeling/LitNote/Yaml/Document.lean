import LitNote.Yaml.Graph
import LitNote.Yaml.Token

/-!
Documents from tokens.  A name stands for the vertex that it was given to, and a tag that is not
written follows from the look of a plain scalar.
-/

namespace LitNote.Yaml

structure Stream where
  tokens : List Token
  graph : Graph
  names : List (Text × Nat)
  handles : List (Text × Text)
deriving Inhabited

abbrev Reads (α : Type) := StateT Stream (Except Failure) α

namespace Stream

def malformed {α : Type} : Reads α := throw .malformedYaml

def peek : Reads (Option Token) := do return (← get).tokens.head?

def drop : Reads Unit := modify fun s => { s with tokens := s.tokens.drop 1 }

def next : Reads (Option Token) := do
  let t ← peek
  drop
  return t

def comes (ts : List Token) : Reads Bool := do return (← peek).any ts.contains

def expect (t : Token) : Reads Unit := do
  if (← next) == some t then return () else malformed

def add (v : Vertex) : Reads Nat :=
  modifyGet fun s => (s.graph.size, { s with graph := s.graph.push v })

/-- A scalar of which nothing is written; each is a vertex of its own. -/
def empty : Reads Nat := add Vertex.empty

def named (name : Text) : Reads Nat := do
  match (← get).names.find? (·.1 == name) with
  | some (_, n) => return n
  | none => malformed

def giveName (n : Nat) (name : Text) : Reads Unit := do
  if (← get).names.any (·.1 == name) then malformed
  modify fun s => { s with names := (name, n) :: s.names }

/-- The full form of a tag; an exclamation mark alone says that there is none. -/
def fullTag (t : WrittenTag) : Reads (Option Text) := do
  match t.handle with
  | none => return if t.suffix == ['!'] then none else some t.suffix
  | some handle =>
    match (← get).handles.find? (·.1 == handle) with
    | some (_, start) =>
      return if start ++ t.suffix == ['!'] then none else some (start ++ t.suffix)
    | none => malformed

structure Properties where
  name : Option Text
  tag : Option Text
  tagged : Bool
deriving Repr, Inhabited

def anchor? : Reads (Option Text) := do
  match ← peek with
  | some (.anchor name) => do drop; return some name
  | _ => return none

def tag? : Reads (Option WrittenTag) := do
  match ← peek with
  | some (.tag t) => do drop; return some t
  | _ => return none

def properties : Reads Properties := do
  let before ← anchor?
  let tag ← tag?
  let name ← if before.isSome then pure before else if tag.isSome then anchor? else pure none
  match tag with
  | none => return ⟨name, none, false⟩
  | some t => return ⟨name, ← fullTag t, true⟩

/-- The tag that is written, or the one that the look of a plain scalar gives.  A lone exclamation
mark makes any scalar count as plain. -/
def scalarTag (p : Properties) (plain : Bool) (s : Text) : Tag :=
  match p.tag with
  | some t => Tag.ofName t
  | none => if plain || p.tagged then Plain.tag s else .text

def collectionTag (p : Properties) (usual : Tag) : Tag := (p.tag.map Tag.ofName).getD usual

def maxDepth : Nat := 480

def scalar (p : Properties) (plain : Bool) (s : Text) : Reads Nat := do
  let n ← add ⟨scalarTag p plain s, .scalar s⟩
  p.name.forM (giveName n)
  return n

/-- A collection has its number and its name before its parts are read. -/
def collection (p : Properties) (usual : Tag) (parts : Reads Content) : Reads Nat := do
  let n ← add ⟨collectionTag p usual, .scalar []⟩
  p.name.forM (giveName n)
  let content ← parts
  modify fun s => { s with graph := s.graph.setContent n content }
  return n

def sequence (p : Properties) (items : Reads (List Nat)) : Reads Nat :=
  collection p .sequence (.sequence <$> items)

def mapping (p : Properties) (entries : Reads (List (Nat × Nat))) : Reads Nat :=
  collection p .mapping (.mapping <$> entries)

def nothing (p : Properties) : Reads Nat :=
  if p.name.isSome || p.tagged then scalar p true [] else malformed

mutual

/-- A node.  In a block, collections may be written as blocks; the entries of a mapping may be
sequences without indentation. -/
def node (block bare : Bool) : Nat → Nat → Reads Nat
  | 0, _ => malformed
  | fuel + 1, depth => do
    if maxDepth < depth then throw .tooDeep
    match ← peek with
    | some (.alias name) => do drop; named name
    | _ => do content block bare (← properties) fuel depth
termination_by structural fuel => fuel

def content (block bare : Bool) (p : Properties) : Nat → Nat → Reads Nat
  | 0, _ => malformed
  | fuel + 1, depth => do
    match ← peek with
    | some (.scalar s plain) => do drop; scalar p plain s
    | some .flowSequence => do drop; sequence p (flowItems true fuel (depth + 1))
    | some .flowMapping => do drop; mapping p (flowEntries true fuel (depth + 1))
    | some .entry => if bare then sequence p (bareItems fuel (depth + 1)) else nothing p
    | some .blockSequence =>
      if block then do drop; sequence p (blockItems fuel (depth + 1)) else nothing p
    | some .blockMapping =>
      if block then do drop; mapping p (blockEntries fuel (depth + 1)) else nothing p
    | _ => nothing p
termination_by structural fuel => fuel

def nodeBefore (ends : List Token) (block bare : Bool) : Nat → Nat → Reads Nat
  | 0, _ => malformed
  | fuel + 1, depth => do
    if ← comes ends then empty else node block bare fuel depth
termination_by structural fuel => fuel

def blockItems : Nat → Nat → Reads (List Nat)
  | 0, _ => malformed
  | fuel + 1, depth => do
    match ← next with
    | some .entry => do
      let item ← nodeBefore [.entry, .blockEnd] true false fuel depth
      return item :: (← blockItems fuel depth)
    | some .blockEnd => return []
    | _ => malformed
termination_by structural fuel => fuel

def bareItems : Nat → Nat → Reads (List Nat)
  | 0, _ => malformed
  | fuel + 1, depth => do
    if ← comes [.entry] then
      drop
      let item ← nodeBefore [.entry, .key, .value, .blockEnd] true false fuel depth
      return item :: (← bareItems fuel depth)
    else return []
termination_by structural fuel => fuel

def valueBefore (ends : List Token) (block : Bool) : Nat → Nat → Reads Nat
  | 0, _ => malformed
  | fuel + 1, depth => do
    if ← comes [.value] then
      drop
      nodeBefore ends block block fuel depth
    else empty
termination_by structural fuel => fuel

def blockEntries : Nat → Nat → Reads (List (Nat × Nat))
  | 0, _ => malformed
  | fuel + 1, depth => do
    match ← next with
    | some .key => do
      let key ← nodeBefore [.key, .value, .blockEnd] true true fuel depth
      let value ← valueBefore [.key, .value, .blockEnd] true fuel depth
      return (key, value) :: (← blockEntries fuel depth)
    | some .blockEnd => return []
    | _ => malformed
termination_by structural fuel => fuel

def flowItems (first : Bool) : Nat → Nat → Reads (List Nat)
  | 0, _ => malformed
  | fuel + 1, depth => do
    if ← comes [.flowSequenceEnd] then
      drop
      return []
    if !first then expect .flowEntry
    if ← comes [.flowSequenceEnd] then
      drop
      return []
    let item ← flowItem fuel depth
    return item :: (← flowItems false fuel depth)
termination_by structural fuel => fuel

def flowItem : Nat → Nat → Reads Nat
  | 0, _ => malformed
  | fuel + 1, depth => do
    if ← comes [.key] then
      drop
      let key ← nodeBefore [.value, .flowEntry, .flowSequenceEnd] false false fuel depth
      let value ← valueBefore [.flowEntry, .flowSequenceEnd] false fuel depth
      add ⟨.mapping, .mapping [(key, value)]⟩
    else node false false fuel depth
termination_by structural fuel => fuel

def flowEntries (first : Bool) : Nat → Nat → Reads (List (Nat × Nat))
  | 0, _ => malformed
  | fuel + 1, depth => do
    if ← comes [.flowMappingEnd] then
      drop
      return []
    if !first then expect .flowEntry
    if ← comes [.flowMappingEnd] then
      drop
      return []
    let entry ← flowPair fuel depth
    return entry :: (← flowEntries false fuel depth)
termination_by structural fuel => fuel

def flowPair : Nat → Nat → Reads (Nat × Nat)
  | 0, _ => malformed
  | fuel + 1, depth => do
    if ← comes [.key] then
      drop
      let key ← nodeBefore [.value, .flowEntry, .flowMappingEnd] false false fuel depth
      return (key, ← valueBefore [.flowEntry, .flowMappingEnd] false fuel depth)
    else return (← node false false fuel depth, ← empty)
termination_by structural fuel => fuel

end

def defaultHandles : List (Text × Text) := [(['!'], ['!']), (['!', '!'], Tag.family)]

def directives (versioned : Bool) (handles : List (Text × Text)) : Nat → Reads (List (Text × Text))
  | 0 => malformed
  | fuel + 1 => do
    match ← peek with
    | some (.directive (.version major)) =>
      if versioned || major != 1 then malformed
      drop
      directives true handles fuel
    | some (.directive (.tag handle start)) =>
      if handles.any (·.1 == handle) then malformed
      drop
      directives versioned ((handle, start) :: handles) fuel
    | some (.directive .other) =>
      drop
      directives versioned handles fuel
    | _ => return handles

def isDirective : Token → Bool
  | .directive _ => true
  | _ => false

def endsDocument : Option Token → Bool
  | none => true
  | some .documentStart => true
  | some .documentEnd => true
  | some t => isDirective t

def skipEnds : Nat → Reads Unit
  | 0 => return ()
  | fuel + 1 => do
    if ← comes [.documentEnd] then
      drop
      skipEnds fuel

def document (fuel : Nat) : Reads (Option Nat) := do
  match ← peek with
  | none => return none
  | some t =>
    let root ←
      if t == .documentStart || isDirective t then do
        let handles ← directives false [] fuel
        modify fun s => { s with handles := handles ++ defaultHandles }
        expect .documentStart
        if endsDocument (← peek) then empty else node true false fuel 0
      else node true false fuel 0
    skipEnds fuel
    if (← peek).isSome then malformed
    return some root

end Stream

def Document.ofTokens (ts : List Token) : Except Failure (Option Document) := do
  let (root, s) ← (Stream.document (6 * ts.length + 16)).run ⟨ts, #[], [], Stream.defaultHandles⟩
  return root.map (⟨s.graph, ·⟩)

end LitNote.Yaml
