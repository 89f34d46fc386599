import LitNote.Proofs.Drawing
import LitNote.Proofs.Template.Lookup
import LitNote.Proofs.Template.SelfContained
import LitNote.Proofs.Value.Record

/-!
Rendering part by part.  Main statement: self-contained templates that are joined render to their
texts joined, and a block over a list renders its body once for every item, each time with the item
among the variables.
-/

namespace LitNote.Template

theorem renderNodes_singleton (scope : Scope) (node : Node) :
    renderNodes scope [node] = renderNode scope node := by
  simp [renderNodes]

theorem renderNodes_append (scope : Scope) (xs ys : List Node) :
    renderNodes scope (xs ++ ys) = do
      let s ← renderNodes scope xs
      return s ++ (← renderNodes scope ys) := by
  induction xs with
  | nil => simp [renderNodes]
  | cons x xs ih =>
    rw [List.cons_append, renderNodes, renderNodes, ih]
    simp only [bind_assoc, pure_bind, List.append_assoc]

theorem renderNodes_chars (scope : Scope) (s : Text) :
    renderNodes scope (s.map fun c => .text [c]) = pure s := by
  induction s with
  | nil => rw [List.map_nil, renderNodes]
  | cons c s ih => exact renderNodes_text ih

mutual

theorem renderNodes_spread_node (scope : Scope) : ∀ node : Node,
    renderNodes scope node.spread = renderNode scope node
  | .text s => by
    rw [Node.spread, renderNodes_chars, renderNode]
  | .var key fs => by
    rw [Node.spread, renderNodes_singleton]
  | .block name inverted children => by
    have hchildren (scope : Scope) := renderNodes_spread scope children
    rw [Node.spread, renderNodes_singleton]
    simp only [renderNode, hchildren]

theorem renderNodes_spread (scope : Scope) : ∀ nodes : List Node,
    renderNodes scope (spread nodes) = renderNodes scope nodes
  | [] => by
    rw [spread_nil]
  | node :: nodes => by
    rw [spread_cons, renderNodes_append, renderNodes_spread_node scope node,
      renderNodes_spread scope nodes, renderNodes]

end

theorem renderWith_of_readsAs {s : Text} {nodes : List Node} {depth : Nat}
    (h : ReadsAs s nodes depth) (vars : Record) :
    renderWith s (.record vars) =
      if depth ≤ maxDepth then renderNodes [vars] nodes
      else Drawing.failing (.error .tooDeep) := by
  have hparse := h.parse_eq maxDepth
  rw [renderWith_record]
  split at hparse
  · next hdepth =>
    obtain ⟨read, hread, rfl⟩ := Failure.map_eq_ok_iff.mp hparse
    rw [hread, if_pos hdepth, renderNodes_spread]
    rfl
  · next hdepth =>
    rw [if_neg hdepth]
    cases hread : parse s with
    | ok read =>
      rw [hread] at hparse
      cases hparse
    | error e =>
      rw [hread] at hparse
      cases hparse
      rfl

theorem renderNodes_of_run {s t : Text} {nodes : List Node} {depth : Nat}
    (h : ReadsAs s nodes depth) {vars : Record} {d d' : Draws}
    (hrun : (renderWith s (.record vars)).run d = (.ok t, d')) :
    depth ≤ maxDepth ∧ (renderNodes [vars] nodes).run d = (.ok t, d') := by
  rw [renderWith_of_readsAs h] at hrun
  split at hrun
  · next hdepth => exact ⟨hdepth, hrun⟩
  · cases hrun

theorem render_run {template t : Text} {vars : Value} {d d' : Draws}
    (h : (renderWith template vars).run d = (.ok t, d')) :
    (render template vars).run d = (.ok t, d') := Drawing.run_recover_ok [] h

theorem renderAs_asIs (template : Text) (vars : Value) :
    renderAs ⟨false, false⟩ template vars = render template vars :=
  bind_pure (render template vars)

theorem renderWith_append_iff {a b : Text} (ha : SelfContained a) (hb : SelfContained b)
    (vars : Record) {u : Text} {d d' : Draws} :
    (renderWith (a ++ b) (.record vars)).run d = (.ok u, d') ↔
      ∃ s t d₁, (renderWith a (.record vars)).run d = (.ok s, d₁) ∧
        (renderWith b (.record vars)).run d₁ = (.ok t, d') ∧ s ++ t = u := by
  obtain ⟨xs, m, hxs⟩ := ha.exists_readsAs
  obtain ⟨ys, n, hys⟩ := hb.exists_readsAs
  rw [renderWith_of_readsAs (hxs.append hys), renderWith_of_readsAs hxs, renderWith_of_readsAs hys]
  constructor
  · intro h
    split at h
    · next hdepth =>
      rw [renderNodes_append] at h
      obtain ⟨s, d₁, hs, h⟩ := Drawing.run_bind_eq_ok_iff.mp h
      obtain ⟨t, d₂, ht, h⟩ := Drawing.run_bind_eq_ok_iff.mp h
      cases h
      rw [if_pos (by omega), if_pos (by omega)]
      exact ⟨s, t, d₁, hs, ht, rfl⟩
    · cases h
  · rintro ⟨s, t, d₁, hs, ht, rfl⟩
    split at hs
    · split at ht
      · rw [if_pos (by omega), renderNodes_append, Drawing.run_bind_ok hs, Drawing.run_bind_ok ht]
        rfl
      · cases ht
    · cases hs

def overlaid (vars : Record) (item : Value) (i n : Nat) : Record :=
  vars.update (Record.ofFields [(".", item), ("@index", .int i), ("@number", .int (i + 1)),
    ("@first", .bool (decide (i = 0))), ("@last", .bool (decide (i + 1 = n))),
    ("@odd", .bool (decide (i % 2 = 1))), ("@even", .bool (decide (i % 2 = 0))),
    ("@length", .int n)])

theorem get?_overlaid (vars : Record) (item : Value) (i n : Nat) (key : Text) :
    Scope.get? [overlaid vars item i n] key = Scope.get? [loopRecord item i n, vars] key := by
  have hnames : (["." , "@index", "@number", "@first", "@last", "@odd", "@even", "@length"].map
      String.toList).Nodup := by decide
  rw [get?_singleton, Scope.get?_cons, get?_singleton, overlaid,
    Record.get?_update_of_nodup (by exact hnames)]
  rfl

theorem renderNodes_overlaid (vars : Record) (item : Value) (i n : Nat) (nodes : List Node) :
    renderNodes [overlaid vars item i n] nodes = renderNodes [loopRecord item i n, vars] nodes :=
  renderNodes_congr nodes fun name _ => get?_overlaid vars item i n name

theorem renderItems_run {f : Value → Nat → Drawing Text} {g : Value × Nat → Drawing Text}
    (hfg : ∀ item i d s d', (f item i).run d = (.ok s, d') → (g (item, i)).run d = (.ok s, d'))
    {items : List Value} {i : Nat} {d d' : Draws} {s : Text}
    (h : (renderItems f items i).run d = (.ok s, d')) :
    ∃ parts, ((items.zipIdx i).mapM g).run d = (.ok parts, d') ∧ parts.flatten = s := by
  induction items generalizing i d s with
  | nil =>
    cases h
    exact ⟨[], rfl, rfl⟩
  | cons item items ih =>
    rw [renderItems] at h
    obtain ⟨t, d₁, ht, h⟩ := Drawing.run_bind_eq_ok_iff.mp h
    obtain ⟨u, d₂, hu, h⟩ := Drawing.run_bind_eq_ok_iff.mp h
    cases h
    obtain ⟨parts, hparts, rfl⟩ := ih hu
    refine ⟨t :: parts, ?_, rfl⟩
    rw [List.zipIdx_cons, List.mapM_cons, Drawing.run_bind_ok (hfg item i d t d₁ ht),
      Drawing.run_bind_ok hparts]
    rfl

def inBlock (name s : Text) : Text :=
  Token.tagRaw ('#' :: name) ++ (s ++ Token.tagRaw ('/' :: name))

theorem ReadsAs.inBlock {name s : Text} {nodes : List Node} {depth : Nat} (hn : IsName name)
    (h : ReadsAs s nodes depth) :
    ReadsAs (inBlock name s) [.block name false nodes] (depth + 1) :=
  ReadsAs.block (noBrace_block hn (Text.Padded.refl name) (by decide))
    (noBrace_block hn (Text.Padded.refl name) (by decide))
    (Token.ofTag_block hn (Text.Padded.refl name) _ false)
    (Token.ofTag_closing hn (Text.Padded.refl name) _) h

theorem renderNodes_block {name : Text} {vars : Record} {v : Value} {items : List Value}
    (hv : vars.get? name = some v) (hitems : v.items? = some items) (nodes : List Node) :
    renderNodes [vars] [.block name false nodes] =
      renderItems (fun item i => renderNodes [loopRecord item i items.length, vars] nodes)
        items 0 := by
  have hget : Scope.get? [vars] name = some v := (get?_singleton vars name).trans hv
  rw [renderNodes_singleton, renderNode, Path.resolve_of_get? hget, Drawing.failing_ok_bind,
    if_neg Bool.false_ne_true, hitems]

theorem renderWith_inBlock_run {name s u : Text} {vars : Record} {v : Value} {items : List Value}
    {d d' : Draws} (hs : SelfContained s) (hn : IsName name) (hv : vars.get? name = some v)
    (hitems : v.items? = some items)
    (hrun : (renderWith (inBlock name s) (.record vars)).run d = (.ok u, d')) :
    ∃ parts, (items.zipIdx.mapM fun p =>
      render s (.record (overlaid vars p.1 p.2 items.length))).run d = (.ok parts, d') ∧
        parts.flatten = u := by
  obtain ⟨nodes, depth, hnodes⟩ := hs.exists_readsAs
  obtain ⟨hdepth, hblock⟩ := renderNodes_of_run (hnodes.inBlock hn) hrun
  rw [renderNodes_block hv hitems] at hblock
  refine renderItems_run (fun item i d₁ t d₂ ht => render_run ?_) hblock
  rw [renderWith_of_readsAs hnodes, if_pos (by omega), renderNodes_overlaid, ht]

/-- Rendering is compositional as long as it does not fail: templates that stand by themselves
render to their texts joined, and in a block over a list to the texts for its items, where every
part goes on drawing where the one before it stopped. -/
theorem renderAs_compositional {a b : Text} (ha : SelfContained a) (hb : SelfContained b)
    (vars : Record) (d : Draws) :
    ((renderWith (a ++ b) (.record vars)).Completes d →
      (renderAs ⟨false, false⟩ (a ++ b) (.record vars)).run d = (do
        let s ← renderAs ⟨false, false⟩ a (.record vars)
        let t ← renderAs ⟨false, false⟩ b (.record vars)
        return s ++ t : Drawing Text).run d) ∧
    ∀ (x : Text) (v : Value) (items : List Value), IsName x → vars.get? x = some v →
      v.items? = some items → (renderWith (inBlock x b) (.record vars)).Completes d →
      (renderAs ⟨false, false⟩ (inBlock x b) (.record vars)).run d = (do
        let parts ← items.zipIdx.mapM fun p =>
          renderAs ⟨false, false⟩ b (.record (overlaid vars p.1 p.2 items.length))
        return parts.flatten : Drawing Text).run d := by
  simp only [renderAs_asIs]
  constructor
  · rintro ⟨u, d', hu⟩
    obtain ⟨s, t, d₁, hs, ht, rfl⟩ := (renderWith_append_iff ha hb vars).mp hu
    rw [render_run hu, Drawing.run_bind_ok (render_run hs), Drawing.run_bind_ok (render_run ht)]
    rfl
  · rintro x v items hx hv hitems ⟨u, d', hu⟩
    obtain ⟨parts, hparts, rfl⟩ := renderWith_inBlock_run hb hx hv hitems hu
    rw [render_run hu, Drawing.run_bind_ok hparts]
    rfl

def wordStart : Text := print [.var "rand2".toList [], .text ['y']]

def wordEnd : Text := print [.text ['z'], .var ['.'] [], .var "@last".toList []]

theorem selfContained_wordStart : SelfContained wordStart :=
  .var (by decide) rfl (.char (by decide) .nil)

theorem selfContained_wordEnd : SelfContained wordEnd :=
  .char (by decide) (.var (by decide) rfl (.var (by decide) rfl .nil))

def wordVars : Record := Record.ofFields [("l", .tuple [.text ['p'], .bool true])]

theorem completes_of_parse {template t : Text} {nodes : List Node} {vars : Record} {d d' : Draws}
    (hparse : parse template = .ok nodes) (hrun : (renderNodes [vars] nodes).run d = (.ok t, d')) :
    (renderWith template (.record vars)).Completes d := by
  refine ⟨t, d', ?_⟩
  rw [renderWith_record, hparse]
  exact hrun

theorem completes_words : (renderWith (wordStart ++ wordEnd) (.record wordVars)).Completes ⟨0⟩ := by
  have hw : WellFormed [.var "rand2".toList [], .text ['y', 'z'], .var ['.'] [],
      .var "@last".toList []] :=
    .var (by decide) (fun _ hf => absurd hf List.not_mem_nil) (.text (by decide) (by decide) id
      (.var (by decide) (fun _ hf => absurd hf List.not_mem_nil)
        (.var (by decide) (fun _ hf => absurd hf List.not_mem_nil) .nil)))
  have hrun : (renderNodes [wordVars] [.var "rand2".toList [], .text ['y', 'z'], .var ['.'] [],
      .var "@last".toList []]).run ⟨0⟩ = (.ok "abyz".toList, ⟨2⟩) := rfl
  exact completes_of_parse (parse_print hw (by decide)) hrun

theorem completes_wordBlock :
    (renderWith (inBlock ['l'] wordEnd) (.record wordVars)).Completes ⟨0⟩ := by
  have hw : WellFormed [.block ['l'] false [.text ['z'], .var ['.'] [], .var "@last".toList []]] :=
    .block (by decide) (.text (by decide) (by decide) id
      (.var (by decide) (fun _ hf => absurd hf List.not_mem_nil)
        (.var (by decide) (fun _ hf => absurd hf List.not_mem_nil) .nil))) .nil
  have hrun : (renderNodes [wordVars]
      [.block ['l'] false [.text ['z'], .var ['.'] [], .var "@last".toList []]]).run ⟨0⟩ =
        (.ok "zpfalseztruetrue".toList, ⟨0⟩) := rfl
  exact completes_of_parse (parse_print hw (by decide)) hrun

theorem renderAs_compositional_words :
    (SelfContained wordStart ∧ SelfContained wordEnd) ∧
      (renderAs ⟨false, false⟩ (wordStart ++ wordEnd) (.record wordVars)).run ⟨0⟩ = (do
        let s ← renderAs ⟨false, false⟩ wordStart (.record wordVars)
        let t ← renderAs ⟨false, false⟩ wordEnd (.record wordVars)
        return s ++ t : Drawing Text).run ⟨0⟩ ∧
      (renderAs ⟨false, false⟩ (inBlock ['l'] wordEnd) (.record wordVars)).run ⟨0⟩ = (do
        let parts ← [Value.text ['p'], .bool true].zipIdx.mapM fun p =>
          renderAs ⟨false, false⟩ wordEnd (.record (overlaid wordVars p.1 p.2 2))
        return parts.flatten : Drawing Text).run ⟨0⟩ := by
  have h := renderAs_compositional selfContained_wordStart selfContained_wordEnd wordVars ⟨0⟩
  exact ⟨⟨selfContained_wordStart, selfContained_wordEnd⟩, h.1 completes_words,
    h.2 ['l'] _ [.text ['p'], .bool true] (by decide) rfl rfl completes_wordBlock⟩

end LitNote.Template
