import LitNote.Yaml.Document
import LitNote.Yaml.Meaning

/-!
What the vertices of a document mean.  Scalars get their values when they are met.  Containers are
met first and filled later, round by round, so that a container may come again within itself; it is
no key then, as no container is.
-/

namespace LitNote.Yaml

inductive Cell where
  | value (v : Value)
  | list (items : List Nat)
  | pairs (entries : List (Nat × Nat))
  | record (entries : List (Nat × Nat))
  | set (members : List Nat)
deriving Repr, Inhabited

structure Building where
  graph : Graph
  cells : Array (Option Cell)
  waiting : List Nat
deriving Inhabited

abbrev Builds (α : Type) := StateT Building (Except Failure) α

namespace Building

def malformed {α : Type} : Builds α := throw .malformedYaml

def start (g : Graph) : Building := ⟨g, Array.replicate g.size none, []⟩

def cell? (b : Building) (n : Nat) : Option Cell := b.cells[n]?.getD none

def setCell (n : Nat) (c : Cell) : Builds Unit :=
  modify fun b => { b with cells := b.cells.setIfInBounds n (some c) }

def await (n : Nat) (c : Cell) : Builds Unit := do
  setCell n c
  modify fun b => { b with waiting := n :: b.waiting }

def scalarValue (g : Graph) (n : Nat) : Except Failure Value := do
  let s ← g.scalarText (g.size + 1) n
  match g.tag n, g.content n with
  | .timestamp, .mapping _ => throw .wrongKind
  | tag, _ => Meaning.scalar tag s

def meet (n : Nat) : Builds Unit := do
  let b ← get
  if (b.cell? n).isSome then return
  match b.graph.tag n with
  | .sequence => await n (.list [])
  | .mapping => await n (.record [])
  | .set => await n (.set [])
  | .orderedMap => await n (.pairs [])
  | .pairs => await n (.pairs [])
  | .merge => malformed
  | .value => malformed
  | .other _ => malformed
  | _ => setCell n (.value (← scalarValue b.graph n))

def meetPair (key value : Nat) : Builds Unit := do
  meet key
  meet value

/-- Whether a vertex is the number that is no number, which equals itself if it is written so. -/
def isNan (b : Building) (n : Nat) : Bool :=
  match b.cell? n with
  | some (.value (.float .nan)) =>
    (b.graph.scalarText (b.graph.size + 1) n).toOption.any Meaning.isNan
  | _ => false

def sameKey (b : Building) (m n : Nat) : Bool :=
  m == n || (b.isNan m && b.isNan n) ||
    match b.cell? m, b.cell? n with
    | some (.value v), some (.value w) => v.sameKey w
    | _, _ => false

def putEntry (b : Building) (key value : Nat) : List (Nat × Nat) → List (Nat × Nat)
  | [] => [(key, value)]
  | (k, v) :: es =>
    if b.sameKey k key then (k, value) :: es else (k, v) :: putEntry b key value es

def meetEntries (known : List (Nat × Nat)) : List (Nat × Nat) → Builds (List (Nat × Nat))
  | [] => return known
  | (key, value) :: es => do
    meet key
    match (← get).cell? key with
    | some (.value _) => do
      meet value
      meetEntries (putEntry (← get) key value known) es
    | _ => malformed

def mappingEntries (n : Nat) : Builds (List (Nat × Nat)) := do
  match (← get).graph.content n with
  | .mapping _ => do
    let g ← (← get).graph.merged n
    modify fun b => { b with graph := g }
    meetEntries [] ((g.entries? n).getD [])
  | _ => malformed

def sequenceItems (n : Nat) : Builds (List Nat) := do
  match (← get).graph.content n with
  | .sequence items => return items
  | _ => malformed

def onlyEntry (n : Nat) : Builds (Nat × Nat) := do
  match (← get).graph.entries? n with
  | some [(key, value)] => do
    meetPair key value
    return (key, value)
  | _ => malformed

def fill (n : Nat) : Builds Unit := do
  match (← get).graph.tag n with
  | .sequence => do
    let items ← sequenceItems n
    items.forM meet
    setCell n (.list items)
  | .mapping => do setCell n (.record (← mappingEntries n))
  | .set => do setCell n (.set ((← mappingEntries n).map (·.1)))
  | _ => do setCell n (.pairs (← (← sequenceItems n).mapM onlyEntry))

def fillAll : Nat → Builds Unit
  | 0 => return ()
  | fuel + 1 => do
    let round := (← get).waiting.reverse
    if round.isEmpty then return
    modify fun b => { b with waiting := [] }
    round.forM fill
    fillAll fuel

end Building

def Document.cells (d : Document) : Except Failure (Array (Option Cell)) := do
  let (_, b) ← (do Building.meet d.root; Building.fillAll (d.graph.size + 1) : Builds Unit).run
    (Building.start d.graph)
  return b.cells

end LitNote.Yaml
