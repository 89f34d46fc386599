import LitNote.Proofs.Template.Insertion
import LitNote.Proofs.Template.RoundTrip

/-!
Templates that draw nothing: what they render to, put together from their nodes.
-/

namespace LitNote.Template

theorem renderNodes_nil (scope : Scope) : renderNodes scope [] = pure [] := by
  rw [renderNodes]

theorem renderNodes_cons {scope : Scope} {node : Node} {nodes : List Node} {s t : Text}
    (hnode : renderNode scope node = pure s) (hnodes : renderNodes scope nodes = pure t) :
    renderNodes scope (node :: nodes) = pure (s ++ t) := by
  rw [renderNodes, hnode, hnodes]
  rfl

theorem renderNodes_text {scope : Scope} {nodes : List Node} {s t : Text}
    (hnodes : renderNodes scope nodes = pure t) :
    renderNodes scope (.text s :: nodes) = pure (s ++ t) :=
  renderNodes_cons (by rw [renderNode]) hnodes

theorem renderVariable_of_get? {scope : Scope} {key : Text} {v : Value} (fs : List Text)
    (hkey : key ≠ "rand".toList) (hget : scope.get? key = some v) :
    renderVariable key fs scope = renderValue key fs v := by
  have hlength : randomLength? key fs = none := if_neg hkey
  rw [renderVariable, hlength, Path.resolve_of_get? hget]
  rfl

theorem renderValue_of_formatters {key : Text} {fs : List Text} {v : Value} (hfs : fs ≠ [])
    (hnull : v ≠ .null) (habsent : v ≠ .absent) :
    renderValue key fs v = Formatter.applyChain v fs := by
  rw [renderValue]
  · exact habsent
  · exact hnull
  · exact hfs
  · exact fun h => absurd h habsent

theorem Formatter.apply_of_draw {name s t : Text} {f : Formatter} {v : Value} {args : List Text}
    (hname : ofName? name = some f) (hplain : v.plain = .ok s)
    (hdraw : f.draw v s args = pure t) : apply name v args = pure t := by
  rw [apply, hplain, hname]
  show Drawing.recover (f.draw v s args) s = _
  rw [hdraw]
  rfl

theorem Formatter.applyChain_cons {name s t : Text} {f : Formatter} {v : Value}
    (hname : ofName? name = some f) (hspec : readSpec name = (name, []))
    (hblank : name.all Text.isBlank = false) (hplain : v.plain = .ok s)
    (hdraw : f.draw v s [] = pure t) (specs : List Text) :
    applyChain v (name :: specs) = applyChain (.text t) specs := by
  rw [applyChain, applySpec, hblank, hspec]
  simp only [apply_of_draw hname hplain hdraw]
  rfl

theorem applyChain_single {name s t : Text} {f : Formatter} {v : Value}
    (hname : Formatter.ofName? name = some f) (hspec : Formatter.readSpec name = (name, []))
    (hblank : name.all Text.isBlank = false) (hplain : v.plain = .ok s)
    (hdraw : f.draw v s [] = pure t) : Formatter.applyChain v [name] = pure t :=
  Formatter.applyChain_cons hname hspec hblank hplain hdraw []

theorem applyChain_map {name : Text} {f : Formatter} {v : Value} {g : Text → Text}
    (hname : Formatter.ofName? name = some f) (hspec : Formatter.readSpec name = (name, []))
    (hblank : name.all Text.isBlank = false) (hdraw : ∀ s, f.draw v s [] = pure (g s)) :
    Formatter.applyChain v [name] = Drawing.failing (v.plain.map g) := by
  cases hplain : v.plain with
  | ok s => exact applyChain_single hname hspec hblank hplain (hdraw s)
  | error e =>
    rw [Formatter.applyChain, Formatter.applySpec, hblank, hspec]
    simp only [Formatter.apply, hplain]
    rfl

theorem renderItems_eq {f : Value → Nat → Drawing Text} {g : Value → Text} {items : List Value}
    (h : ∀ item ∈ items, ∀ i, f item i = pure (g item)) (i : Nat) :
    renderItems f items i = pure (items.flatMap g) := by
  induction items generalizing i with
  | nil => rfl
  | cons item items ih =>
    have ih := ih (fun item' hitem => h item' (List.mem_cons_of_mem item hitem)) (i + 1)
    rw [renderItems, h item (List.mem_cons_self ..) i, ih]
    rfl

theorem get?_loopRecord_item (item : Value) (i n : Nat) (scope : Scope) :
    Scope.get? (loopRecord item i n :: scope) ['.'] = some item := by
  simp [Scope.get?, loopRecord, Record.ofFields, Record.get?, Value.ofString]

theorem render_of_failing {template : Text} {nodes : List Node} {vars : Record}
    {r : Except Failure Text} (hparse : parse template = .ok nodes)
    (hnodes : renderNodes [vars] nodes = Drawing.failing r) :
    render template (.record vars) = pure (r.toOption.getD []) := by
  have hwith : renderWith template (.record vars) = renderNodes [vars] nodes := by
    rw [renderWith_record, hparse]
    rfl
  rw [render, hwith, hnodes]
  cases r <;> rfl

theorem render_of_parse {template s : Text} {nodes : List Node} {vars : Record}
    (hparse : parse template = .ok nodes) (hnodes : renderNodes [vars] nodes = pure s) :
    render template (.record vars) = pure s :=
  render_of_failing (r := .ok s) hparse hnodes

theorem renderAs_of_render {template s : Text} {vars : Value} (how : Finish)
    (h : render template vars = pure s) :
    renderAs how template vars = Drawing.failing (finish how template s) := by
  rw [renderAs, h]
  rfl

theorem finish_array (template s : Text) :
    finish ⟨false, ArrayLiteral.isTemplate template⟩ template s =
      if ArrayLiteral.isTemplate template then ArrayLiteral.normalize s else .ok s := by
  rw [finish, Bool.and_self]
  rfl

theorem isName_iff {s : Text} : IsName s ↔ s ≠ [] ∧ Text.trim s = s ∧ '}' ∉ s :=
  ⟨fun h => ⟨h.ne_nil, h.trimmed, h.noBrace⟩, fun h => ⟨h.1, h.2.1, h.2.2⟩⟩

theorem isKey_iff {s : Text} :
    IsKey s ↔ IsName s ∧ s.all (!Token.endsKey ·) = true ∧ s.head? ≠ some '/' := by
  simp only [List.all_eq_true, Bool.not_eq_true']
  exact ⟨fun h => ⟨h.toIsName, h.noMark, h.noSlash⟩, fun h => ⟨h.1, h.2.1, h.2.2⟩⟩

theorem isFormatter_iff {s : Text} : IsFormatter s ↔ IsName s ∧ '|' ∉ s :=
  ⟨fun h => ⟨h.toIsName, h.noBar⟩, fun h => ⟨h.1, h.2⟩⟩

instance (s : Text) : Decidable (IsName s) := decidable_of_iff _ isName_iff.symm

instance (s : Text) : Decidable (IsKey s) := decidable_of_iff _ isKey_iff.symm

instance (s : Text) : Decidable (IsFormatter s) := decidable_of_iff _ isFormatter_iff.symm

theorem parse_print {nodes : List Node} (hw : WellFormed nodes) (hdepth : depth nodes ≤ maxDepth) :
    parse (print nodes) = .ok nodes := by
  obtain ⟨ts, hts, htok⟩ := exists_tokens (spells_print nodes) hw
  have htok := htok [] (.inl rfl)
  have hread := ofTokens_tokens hts [] [] (Nat.zero_le maxDepth)
  rw [List.append_nil] at htok hread
  rw [List.length_nil, Nat.zero_add, if_pos hdepth, Body.ofTokens_nil] at hread
  rw [parse, htok, show tokenize [] = [] from rfl, List.append_nil, hread]
  exact congrArg Except.ok (List.append_nil nodes)

theorem parse_tag {x : Text} (hx : IsKey x) :
    parse (Token.tagRaw x) = .ok [.var x []] := by
  have hw : WellFormed [.var x []] :=
    .var hx (fun _ hf => absurd hf List.not_mem_nil) .nil
  have h := parse_print hw (Nat.zero_le _)
  simpa [print, Node.print] using h

theorem parse_of_isRun {s : Text} (h : IsRun s []) : parse s = .ok [.text s] := by
  have htokens := h.tokenize_eq
  rw [List.append_nil] at htokens
  rw [parse, htokens, Body.ofTokens_text, show tokenize [] = [] from rfl, Body.ofTokens_nil]
  rfl

theorem render_of_isRun {s : Text} (h : IsRun s []) (vars : Record) :
    render s (.record vars) = pure s := by
  have hnodes : renderNodes [vars] [.text s] = pure s := by
    rw [renderNodes_text (renderNodes_nil _), List.append_nil]
  exact render_of_parse (parse_of_isRun h) hnodes

theorem render_plain {s : Text} (hne : s ≠ []) (hbrace : '{' ∉ s) (vars : Record) :
    render s (.record vars) = pure s := render_of_isRun (.of_noBrace hne hbrace (.inl rfl)) vars

end LitNote.Template
