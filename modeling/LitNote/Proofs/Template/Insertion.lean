import LitNote.Proofs.Drawing
import LitNote.Proofs.Template.Gapped
import LitNote.Template.Render

/-!
A text under a name that a template uses only to put it in.  Main statement: the text stands in the
result as it is, in places that do not depend on it, and what surrounds it does not either.
-/

namespace LitNote.Template

open Drawing (Uniform)

def Node.path? : Node → Option Text
  | .text _ => none
  | .var key _ => some key
  | .block name _ _ => some name

mutual

def Node.within : Node → List Node
  | .text s => [.text s]
  | .var key fs => [.var key fs]
  | .block name inverted children => .block name inverted children :: within children

def within : List Node → List Node
  | [] => []
  | node :: nodes => node.within ++ within nodes

end

def Node.Avoids (x : Text) (node : Node) : Prop :=
  ∀ path, node.path? = some path → path ≠ x ∧ (Path.parts path).head? ≠ some x

/-- Nodes put the value under a name in, and do nothing else with it. -/
def OnlyInsert (x : Text) (nodes : List Node) : Prop :=
  ∀ node ∈ within nodes, node ≠ .var x [] → node.Avoids x

structure IsOuter (x : Text) : Prop where
  noPoint : x.head? ≠ some '.'
  noAt : x.head? ≠ some '@'

structure Inserted (x : Text) (scope : Text → Scope) : Prop where
  here : ∀ s, (scope s).get? x = some (.text s)
  elsewhere : ∀ key, key ≠ x → ∀ s t, (scope s).get? key = (scope t).get? key

theorem get?_loopRecord {x : Text} (hx : IsOuter x) (item : Value) (i n : Nat) :
    Record.get? (loopRecord item i n) x = none := by
  have names : ∀ name ∈ [".", "@index", "@number", "@first", "@last", "@odd", "@even", "@length"],
      name.toList.head? = some '.' ∨ name.toList.head? = some '@' := by
    decide
  refine Record.get?_ofFields_eq_none fun f hf heq => ?_
  have hname := names f.1 (List.mem_map_of_mem hf)
  rw [heq] at hname
  exact hname.elim hx.noPoint hx.noAt

theorem Inserted.loop {x : Text} {scope : Text → Scope} (h : Inserted x scope) (hx : IsOuter x)
    (item : Value) (i n : Nat) : Inserted x fun s => loopRecord item i n :: scope s where
  here s := by
    rw [Scope.get?_cons, get?_loopRecord hx, Option.none_or, h.here]
  elsewhere key hkey s t := by
    rw [Scope.get?_cons, Scope.get?_cons, h.elsewhere key hkey s t]

theorem Inserted.resolve_eq {x path : Text} {scope : Text → Scope} (h : Inserted x scope)
    (hx : IsOuter x) (hpath : path ≠ x) (hfirst : (Path.parts path).head? ≠ some x) (s t : Text) :
    Path.resolve (scope s) path = Path.resolve (scope t) path := by
  have hitem : ['.'] ≠ x := by
    rintro rfl
    exact hx.noPoint rfl
  refine Path.resolve_congr (h.elsewhere path hpath s t) (h.elsewhere ['.'] hitem s t) ?_
  intro part hpart
  refine h.elsewhere part ?_ s t
  rintro rfl
  exact hfirst hpart

theorem renderVariable_name {x : Text} (hrand : x ≠ "rand".toList) {scope : Text → Scope}
    (h : Inserted x scope) (s : Text) : renderVariable x [] (scope s) = pure s := by
  have hlength : randomLength? x [] = none := by
    rw [randomLength?, if_neg hrand]
  rw [renderVariable, hlength, Path.resolve_of_get? (h.here s)]
  rfl

theorem uniform_renderVariable {x : Text} (hrand : x ≠ "rand".toList) (hx : IsOuter x)
    {scope : Text → Scope} (h : Inserted x scope) {key : Text} {fs : List Text}
    (havoid : Node.var key fs ≠ .var x [] → (Node.var key fs).Avoids x) :
    Uniform fun s => renderVariable key fs (scope s) := by
  by_cases hbare : key = x ∧ fs = []
  · obtain ⟨rfl, rfl⟩ := hbare
    have hname : (fun s => renderVariable key [] (scope s)) = fun s => pure s :=
      funext (renderVariable_name hrand h)
    rw [hname]
    exact Uniform.gap
  · have hne : Node.var key fs ≠ .var x [] := by
      intro heq
      cases heq
      exact hbare ⟨rfl, rfl⟩
    obtain ⟨hpath, hfirst⟩ := havoid hne key rfl
    have hsame : (fun s => renderVariable key fs (scope s)) =
        fun _ => renderVariable key fs (scope []) := by
      funext s
      rw [renderVariable, renderVariable, h.resolve_eq hx hpath hfirst s []]
    rw [hsame]
    exact Uniform.const _

theorem uniform_renderItems {f : Text → Value → Nat → Drawing Text}
    (hf : ∀ item i, Uniform fun s => f s item i) (items : List Value) (i : Nat) :
    Uniform fun s => renderItems (f s) items i := by
  induction items generalizing i with
  | nil => exact Uniform.const (pure [])
  | cons item items ih => exact (hf item i).append (ih (i + 1))

mutual

theorem uniform_renderNode {x : Text} (hrand : x ≠ "rand".toList) (hx : IsOuter x) :
    ∀ (node : Node), (∀ n ∈ node.within, n ≠ .var x [] → n.Avoids x) →
      ∀ {scope : Text → Scope}, Inserted x scope → Uniform fun s => renderNode (scope s) node
  | .text t, _, scope, _ => by
    simp only [renderNode]
    exact Uniform.const (pure t)
  | .var key fs, havoid, scope, h => by
    simp only [renderNode]
    exact uniform_renderVariable hrand hx h (havoid _ (List.mem_singleton.mpr rfl))
  | .block name inverted children, havoid, scope, h => by
    rw [Node.within] at havoid
    have hblock := havoid _ (List.mem_cons_self ..) (fun heq => nomatch heq)
    obtain ⟨hpath, hfirst⟩ := hblock name rfl
    have hchildren {scope : Text → Scope} (h : Inserted x scope) :
        Uniform fun s => renderNodes (scope s) children :=
      uniform_renderNodes hrand hx children (fun n hn => havoid n (List.mem_cons_of_mem _ hn)) h
    -- Which branch is taken depends on the block's value, and that on nothing that is put in.
    simp only [renderNode, h.resolve_eq hx hpath hfirst _ []]
    refine Uniform.failing_bind fun value _ => ?_
    split
    · split
      · exact hchildren h
      · exact Uniform.const (pure [])
    · split
      · exact uniform_renderItems (fun item i => hchildren (h.loop hx item i _)) _ 0
      · split
        · exact hchildren h
        · exact Uniform.const (pure [])

theorem uniform_renderNodes {x : Text} (hrand : x ≠ "rand".toList) (hx : IsOuter x) :
    ∀ (nodes : List Node), OnlyInsert x nodes → ∀ {scope : Text → Scope}, Inserted x scope →
      Uniform fun s => renderNodes (scope s) nodes
  | [], _, scope, _ => by
    simp only [renderNodes]
    exact Uniform.const (pure [])
  | node :: nodes, havoid, scope, h => by
    rw [OnlyInsert, within] at havoid
    have hnode := uniform_renderNode hrand hx node
      (fun n hn => havoid n (List.mem_append_left _ hn)) h
    have hnodes := uniform_renderNodes hrand hx nodes
      (fun n hn => havoid n (List.mem_append_right _ hn)) h
    simp only [renderNodes]
    exact hnode.append hnodes

end

theorem inserted_put (x : Text) (vars : Record) :
    Inserted x fun s => [vars.put (.text x) (.text s)] where
  here s := by
    rw [Scope.get?_cons, Record.get?_put_self]
    rfl
  elsewhere key hkey s t := by
    simp only [Scope.get?_cons, Record.get?_put_of_ne vars hkey]

theorem renderWith_record (template : Text) (vars : Record) :
    renderWith template (.record vars) =
      Drawing.failing (parse template) >>= renderNodes [vars] := by
  cases vars <;> rfl

theorem uniform_render {x template : Text} (hrand : x ≠ "rand".toList) (hx : IsOuter x)
    (honly : ∀ nodes, parse template = .ok nodes → OnlyInsert x nodes) (vars : Record) :
    Uniform fun s => render template (.record (vars.put (.text x) (.text s))) := by
  simp only [render, renderWith_record]
  refine Uniform.recover ?_ []
  exact Uniform.failing_bind fun nodes hnodes =>
    uniform_renderNodes hrand hx nodes (honly nodes hnodes) (inserted_put x vars)

theorem render_run_ok (template : Text) (vars : Value) (d : Draws) :
    ∃ t d', (render template vars).run d = (.ok t, d') :=
  Drawing.Returns.recover (renderWith template vars) [] d

/-- A value that a template only puts in is never read as a template: it stands as it is between
pieces that do not depend on it. -/
theorem renderAs_insert {x template : Text} (hrand : x ≠ "rand".toList) (hx : IsOuter x)
    (honly : ∀ nodes, parse template = .ok nodes → OnlyInsert x nodes) (vars : Record) (d : Draws) :
    ∃ (first : Text) (later : List Text) (d' : Draws), ∀ s,
      (renderAs ⟨false, false⟩ template (.record (vars.put (.text x) (.text s)))).run d =
        (.ok (first ++ later.flatMap (s ++ ·)), d') := by
  -- A failure leaves an empty text, so that a result without gaps is left even then.
  obtain ⟨r, d', hrun⟩ := uniform_render hrand hx honly vars d
  obtain ⟨t, d₀, hok⟩ := render_run_ok template (.record (vars.put (.text x) (.text []))) d
  cases r with
  | error e =>
    rw [hrun []] at hok
    cases hok
  | ok g =>
    obtain ⟨first, later, hpieces⟩ := g.exists_pieces
    refine ⟨first, later, d', fun s => ?_⟩
    rw [renderAs, Drawing.run_bind_ok (hrun s), ← hpieces]
    rfl

def listing : Text := "{{#a}}{{x}}, {{/a}}".toList

def listingNodes : List Node := [.block ['a'] false [.var ['x'] [], .text [',', ' ']]]

theorem parse_listing : parse listing = .ok listingNodes := by
  have htok : tokenize listing =
      [.opening "{{#a}}".toList ['a'] false, .var "{{x}}".toList ['x'] [], .text [',', ' '],
        .closing "{{/a}}".toList ['a']] := by
    rfl
  rw [parse, htok]
  simp [Body.ofTokens_opening, Body.ofTokens_closing, maxDepth, Except.map, Except.bind,
    Body.prepend, listingNodes]

theorem onlyInsert_listing : OnlyInsert ['x'] listingNodes := by
  intro node hnode hne path hpath
  simp only [listingNodes, within, Node.within, List.append_nil, List.cons_append, List.nil_append,
    List.mem_cons, List.not_mem_nil, or_false] at hnode
  rcases hnode with rfl | rfl | rfl
  · cases hpath
    decide
  · exact absurd rfl hne
  · cases hpath

theorem renderAs_insert_listing :
    OnlyInsert ['x'] listingNodes ∧ ∃ (first : Text) (later : List Text) (d' : Draws), ∀ s,
      (renderAs ⟨false, false⟩ listing (.record
        (Record.put [(.text ['a'], .list [.null, .null])] (.text ['x']) (.text s)))).run ⟨0⟩ =
          (.ok (first ++ later.flatMap (s ++ ·)), d') := by
  refine ⟨onlyInsert_listing, renderAs_insert (by decide) ⟨by decide, by decide⟩ ?_ _ _⟩
  intro nodes hnodes
  rw [parse_listing] at hnodes
  cases hnodes
  exact onlyInsert_listing

end LitNote.Template
