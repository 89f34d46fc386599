import LitNote.Proofs.Template.Insertion
import LitNote.Proofs.Template.Rendering

/-!
The names that a template looks up.  Main statement: what it renders to, and what is drawn for it,
depends on the values under these names and on nothing else among the variables.
-/

namespace LitNote.Template

def Node.lookups (node : Node) : List Text :=
  match node.path? with
  | none => []
  | some path => path :: (Path.parts path).head?.toList

/-- The names that nodes look up.  The current item counts, for paths may start from it. -/
def lookups (nodes : List Node) : List Text := ['.'] :: (within nodes).flatMap Node.lookups

def Agree (names : List Text) (scope other : Scope) : Prop :=
  ∀ name ∈ names, scope.get? name = other.get? name

section
variable {names : List Text} {scope other : Scope}

theorem Agree.mono {fewer : List Text} (h : Agree names scope other) (hsub : fewer ⊆ names) :
    Agree fewer scope other := fun name hname => h name (hsub hname)

theorem Agree.loop (h : Agree names scope other) (r : Record) :
    Agree names (r :: scope) (r :: other) := by
  intro name hname
  rw [Scope.get?_cons, Scope.get?_cons, h name hname]

theorem Agree.resolve_eq (h : Agree names scope other) {path : Text} (hitem : ['.'] ∈ names)
    (hpath : path ∈ names) (hfirst : (Path.parts path).head?.toList ⊆ names) :
    Path.resolve scope path = Path.resolve other path := by
  refine Path.resolve_congr (h path hpath) (h ['.'] hitem) fun part hpart => ?_
  have hmem : part ∈ (Path.parts path).head?.toList := by
    rw [hpart]
    exact List.mem_singleton.mpr rfl
  exact h part (hfirst hmem)

theorem Agree.resolve_of_path {nodes : List Node} {node : Node} {path : Text}
    (h : Agree (['.'] :: nodes.flatMap Node.lookups) scope other) (hnode : node ∈ nodes)
    (hpath : node.path? = some path) : Path.resolve scope path = Path.resolve other path := by
  have hlookups : node.lookups ⊆ ['.'] :: nodes.flatMap Node.lookups := fun name hname =>
    List.mem_cons_of_mem _ (List.mem_flatMap.mpr ⟨node, hnode, hname⟩)
  rw [Node.lookups, hpath] at hlookups
  exact h.resolve_eq (List.mem_cons_self ..) (hlookups (List.mem_cons_self ..))
    fun name hname => hlookups (List.mem_cons_of_mem _ hname)

end

theorem subset_lookups {fewer all : List Node} (h : fewer ⊆ all) :
    ['.'] :: fewer.flatMap Node.lookups ⊆ ['.'] :: all.flatMap Node.lookups := by
  refine List.cons_subset_cons _ fun name hname => ?_
  obtain ⟨node, hnode, hlookup⟩ := List.mem_flatMap.mp hname
  exact List.mem_flatMap.mpr ⟨node, h hnode, hlookup⟩

mutual

theorem renderNode_congr : ∀ (node : Node) {scope other : Scope},
    Agree (['.'] :: node.within.flatMap Node.lookups) scope other →
      renderNode scope node = renderNode other node
  | .text s, _, _, _ => by
    rw [renderNode, renderNode]
  | .var key fs, scope, other, h => by
    have hresolve := h.resolve_of_path (List.mem_singleton.mpr rfl) rfl
    rw [renderNode, renderNode, renderVariable, renderVariable, hresolve]
  | .block name inverted children, scope, other, h => by
    rw [Node.within] at h
    have hresolve := h.resolve_of_path (List.mem_cons_self ..) rfl
    have hwithin := h.mono (subset_lookups (List.subset_cons_self _ _))
    have hchildren := renderNodes_congr children hwithin
    have hloop (r : Record) := renderNodes_congr children (hwithin.loop r)
    simp only [renderNode, hresolve, hchildren, hloop]

theorem renderNodes_congr : ∀ (nodes : List Node) {scope other : Scope},
    Agree (lookups nodes) scope other → renderNodes scope nodes = renderNodes other nodes
  | [], _, _, _ => by
    rw [renderNodes, renderNodes]
  | node :: nodes, scope, other, h => by
    rw [lookups, within] at h
    have hnode := renderNode_congr node (h.mono (subset_lookups (List.subset_append_left _ _)))
    have hnodes := renderNodes_congr nodes (h.mono (subset_lookups (List.subset_append_right _ _)))
    rw [renderNodes, renderNodes, hnode, hnodes]

end

theorem renderWith_congr {template : Text} {vars other : Record}
    (h : ∀ nodes, parse template = .ok nodes → Agree (lookups nodes) [vars] [other]) :
    renderWith template (.record vars) = renderWith template (.record other) := by
  rw [renderWith_record, renderWith_record]
  cases hparse : parse template with
  | error e => rfl
  | ok nodes => exact renderNodes_congr nodes (h nodes hparse)

theorem get?_singleton (vars : Record) (name : Text) : Scope.get? [vars] name = vars.get? name := by
  rw [Scope.get?_cons]
  exact Option.or_none

/-- Variables that have the same values under the names that a template looks up give the same text
and draw the same, whatever becomes of the text afterwards. -/
theorem renderAs_congr (how : Finish) {template : Text} {vars other : Record}
    (h : ∀ nodes, parse template = .ok nodes →
      ∀ name ∈ lookups nodes, vars.get? name = other.get? name) :
    renderAs how template (.record vars) = renderAs how template (.record other) := by
  have hwith : renderWith template (.record vars) = renderWith template (.record other) := by
    refine renderWith_congr fun nodes hparse name hname => ?_
    rw [get?_singleton, get?_singleton, h nodes hparse name hname]
  rw [renderAs, renderAs, render, render, hwith]

def entryNodes : List Node :=
  [.block ['a'] false [.var ".b".toList [], .var "c.d".toList ["upper".toList]],
    .var "rand3".toList []]

theorem parse_entryNodes : parse (print entryNodes) = .ok entryNodes := by
  have hnone : ∀ f ∈ ([] : List Text), IsFormatter f := fun _ hf => absurd hf List.not_mem_nil
  have hupper : ∀ f ∈ ["upper".toList], IsFormatter f := by decide
  have hw : WellFormed entryNodes :=
    .block (by decide) (.var (by decide) hnone (.var (by decide) hupper .nil))
      (.var (by decide) hnone .nil)
  exact parse_print hw (by decide)

def entryVars (more : List (String × Value)) : Record :=
  Record.ofFields (("a", .list [.record (Record.ofFields [("b", .int 1)]), .null]) :: more ++
    [("c", .record (Record.ofFields [("d", Value.ofString "x")]))])

theorem agree_entryVars : ∀ name ∈ lookups entryNodes,
    (entryVars [("b", .int 2), ("d", .null)]).get? name =
      (entryVars [("rand", .int 3)]).get? name := by
  intro name hname
  have hnames : lookups entryNodes =
      [['.'], ['a'], ['a'], ".b".toList, [], "c.d".toList, ['c'], "rand3".toList,
        "rand3".toList] := by
    decide
  rw [hnames] at hname
  simp only [List.mem_cons, List.not_mem_nil, or_false] at hname
  rcases hname with rfl | rfl | rfl | rfl | rfl | rfl | rfl | rfl | rfl <;> rfl

theorem renderAs_congr_entryVars :
    parse (print entryNodes) = .ok entryNodes ∧
      renderAs ⟨true, true⟩ (print entryNodes)
          (.record (entryVars [("b", .int 2), ("d", .null)])) =
        renderAs ⟨true, true⟩ (print entryNodes) (.record (entryVars [("rand", .int 3)])) := by
  refine ⟨parse_entryNodes, renderAs_congr ⟨true, true⟩ fun nodes hparse => ?_⟩
  rw [parse_entryNodes] at hparse
  cases hparse
  exact agree_entryVars

end LitNote.Template
