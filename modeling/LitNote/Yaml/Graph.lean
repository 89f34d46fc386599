import LitNote.Failure
import LitNote.Yaml.Tag

/-!
Documents as graphs.  A vertex is known by its number, so that what has a name may come again
anywhere, also within itself.
-/

namespace LitNote.Yaml

inductive Content where
  | scalar (text : Text)
  | sequence (items : List Nat)
  | mapping (entries : List (Nat × Nat))
deriving Repr, Inhabited

structure Vertex where
  tag : Tag
  content : Content
deriving Repr, Inhabited

def Vertex.empty : Vertex := ⟨.null, .scalar []⟩

abbrev Graph := Array Vertex

namespace Graph

def vertex (g : Graph) (n : Nat) : Vertex := g[n]?.getD Vertex.empty

def tag (g : Graph) (n : Nat) : Tag := (g.vertex n).tag

def content (g : Graph) (n : Nat) : Content := (g.vertex n).content

def setTag (g : Graph) (n : Nat) (tag : Tag) : Graph := g.modify n fun v => { v with tag := tag }

def setContent (g : Graph) (n : Nat) (content : Content) : Graph :=
  g.modify n fun v => { v with content := content }

def entries? (g : Graph) (n : Nat) : Option (List (Nat × Nat)) :=
  match g.content n with
  | .mapping es => some es
  | _ => none

def entryCount (g : Graph) : Nat :=
  g.foldl (fun count v => match v.content with
    | .mapping es => count + es.length
    | _ => count) 0

/-- The text of a scalar; that of a mapping is the text under its first lone equals sign. -/
def scalarText (g : Graph) : Nat → Nat → Except Failure Text
  | 0, _ => .error .tooDeep
  | fuel + 1, n =>
    match g.content n with
    | .scalar s => .ok s
    | .sequence _ => .error .malformedYaml
    | .mapping es =>
      match es.find? fun (key, _) => g.tag key == .value with
      | some (_, value) => scalarText g fuel value
      | none => .error .malformedYaml

def takeMerge (g : Graph) (n : Nat) : Option (Nat × Graph) :=
  match g.content n with
  | .mapping es =>
    let (own, rest) := es.span fun (key, _) => g.tag key != .merge
    match rest with
    | (_, value) :: rest => some (value, g.setContent n (.mapping (own ++ rest)))
    | [] => none
  | _ => none

def prepend (g : Graph) (n : Nat) (brought : List (Nat × Nat)) : Graph :=
  match g.content n with
  | .mapping es =>
    let g := es.foldl (fun g (key, _) => if g.tag key == .value then g.setTag key .text else g) g
    g.setContent n (.mapping (brought ++ es))
  | _ => g

abbrev Merging := StateT Graph (Except Failure)

mutual

def mergedEntries : Nat → Nat → Merging (List (Nat × Nat))
  | 0, _ => throw .tooDeep
  | fuel + 1, n => do
    match (← get).content n with
    | .mapping _ =>
      let brought ← broughtEntries fuel n
      modify (·.prepend n brought)
      return ((← get).entries? n).getD []
    | _ => throw .malformedYaml
termination_by structural fuel => fuel

def broughtEntries : Nat → Nat → Merging (List (Nat × Nat))
  | 0, _ => throw .tooDeep
  | fuel + 1, n => do
    match (← get).takeMerge n with
    | none => return []
    | some (value, g) =>
      set g
      let first ← match g.content value with
        | .sequence items => (·.reverse.flatten) <$> items.mapM (mergedEntries fuel)
        | _ => mergedEntries fuel value
      return first ++ (← broughtEntries fuel n)
termination_by structural fuel => fuel

end

/-- The graph in which the merges of a mapping have been carried out.  Entries that are merged in
come before its own, which win; of several mappings the first wins. -/
def merged (g : Graph) (n : Nat) : Except Failure Graph :=
  (·.2) <$> (mergedEntries (2 * g.entryCount + 4) n).run g

end Graph

structure Document where
  graph : Graph
  root : Nat
deriving Inhabited

end LitNote.Yaml
