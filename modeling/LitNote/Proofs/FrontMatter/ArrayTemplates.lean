import LitNote.Proofs.ArrayLiteral.Repair
import LitNote.Proofs.FrontMatter.Assembly
import Mathlib.Data.List.Nodup

/-!
Array templates, and those of the settings that are built in: what they are read as, what they
render to, and what is stored for it.
-/

namespace LitNote.FrontMatter

open Drawing (Yields Returns)
open Note (texts)
open Template (IsKey IsName)

def ofText (f : Text → Text) : Value → Text
  | .text l => f l
  | _ => []

theorem renderNodes_list {scope : Scope} {x : Text} {ls : List Text}
    {children : List Template.Node} {f : Text → Text} (hget : scope.get? x = some (texts ls))
    (hitem : ∀ l i, Template.renderNodes (Template.loopRecord (.text l) i ls.length :: scope)
      children = pure (f l)) :
    Template.renderNodes scope [.text ['['], .block x false children, .text [']']] =
      pure (ArrayLiteral.bracketed (ls.flatMap f)) := by
  have hblock : Template.renderNode scope (.block x false children) = pure (ls.flatMap f) := by
    have hitems : ∀ v ∈ ls.map Value.text, ∀ i,
        Template.renderNodes (Template.loopRecord v i (ls.map Value.text).length :: scope)
          children = pure (ofText f v) := by
      intro v hv i
      obtain ⟨l, -, rfl⟩ := List.mem_map.mp hv
      rw [List.length_map]
      exact hitem l i
    have hall : (ls.map Value.text).flatMap (ofText f) = ls.flatMap f := List.flatMap_map ..
    rw [Template.renderNode, Path.resolve_of_get? hget, ← hall,
      ← Template.renderItems_eq hitems 0]
    rfl
  exact Template.renderNodes_text (Template.renderNodes_cons hblock
    (Template.renderNodes_text (Template.renderNodes_nil _)))

theorem renderNode_item (scope : Scope) (l : Text) (i n : Nat) :
    Template.renderNode (Template.loopRecord (.text l) i n :: scope) (.var ['.'] []) = pure l := by
  have hitem := Template.get?_loopRecord_item (.text l) i n scope
  rw [Template.renderNode, Template.renderVariable_of_get? _ (by decide) hitem]
  rfl

def storedLiteral (content : Text) : Except Failure (Option Value) :=
  (ArrayLiteral.normalize (ArrayLiteral.bracketed content)).bind (storedValue true)

theorem customValue_of_literal {name vars : Value} {template content : Text}
    (harray : ArrayLiteral.isTemplate template = true)
    (hrender : Template.render template vars = pure (ArrayLiteral.bracketed content)) :
    customValue name template vars = Drawing.failing (storedLiteral content) := by
  rw [customValue_of_render (takenOver?_of_isTemplate name harray) hrender, harray]
  rfl

theorem storedValue_texts (ss : List Text) :
    storedValue true (ArrayLiteral.literalOf (ss.map Json.writeText)) = .ok (some (texts ss)) :=
  storedValue_of_read (looksStructured_bracketed _) (ArrayLiteral.normalize_texts ss)
    (ArrayLiteral.read_texts ss)

theorem exists_read_of_storedValue {s : Text} {ts : List Text}
    (hs : looksStructured s = true) (hstored : storedValue true s = .ok (some (texts ts))) :
    ∃ t, ArrayLiteral.normalize s = .ok t ∧ Json.read t = .ok (texts ts) := by
  obtain ⟨t, ht⟩ := exists_candidate hs hstored
  refine ⟨t, ht, ?_⟩
  rw [storedValue_of_candidate hs ht] at hstored
  cases hread : Json.read t with
  | ok v =>
    rw [hread] at hstored
    exact congrArg Except.ok (Option.some.inj (Except.ok.inj hstored))
  | error f =>
    rw [hread] at hstored
    dsimp only at hstored
    split at hstored <;> cases hstored

theorem returns_of_parse {name : Value} {template s : Text} {vars : Record}
    {nodes : List Template.Node} (hown : takenOver? name template = none)
    (hparse : Template.parse template = .ok nodes)
    (hnodes : Template.renderNodes [vars] nodes = pure s)
    (hstored : ∃ r, (candidate (ArrayLiteral.isTemplate template) s).bind
      (storedValue (ArrayLiteral.isTemplate template)) = .ok r) :
    Returns (customValue name template (.record vars)) := by
  rw [customValue_of_render hown (Template.render_of_parse hparse hnodes)]
  exact .failing hstored

def listTemplate (x : String) : Text := Settings.arrayOf x (Settings.tagOf ".")

def listNodes (x : Text) : List Template.Node :=
  [.text ['['], .block x false [.var ['.'] [], .text [',']], .text [']']]

theorem wellFormed_listNodes {x : Text} (hx : IsName x) : Template.WellFormed (listNodes x) := by
  have hchildren : Template.WellFormed [.var ['.'] [], .text [',']] :=
    .var (by decide) (fun _ hf => absurd hf List.not_mem_nil)
      (.text (by decide) (by decide) id .nil)
  exact .text (by decide) (by decide) id
    (.block hx hchildren (.text (by decide) (by decide) id .nil))

theorem parse_attachments :
    Template.parse (listTemplate "attachments") = .ok (listNodes "attachments".toList) := by
  have hname : IsName "attachments".toList := by decide
  exact Template.parse_print (wellFormed_listNodes hname) (by decide)

def aliasesTemplate : Text := "[\"".toList ++ Settings.tagOf "title|sentence" ++ "\"]".toList

theorem parse_aliases : Template.parse aliasesTemplate =
    .ok [.text "[\"".toList, .var "title".toList ["sentence".toList], .text "\"]".toList] := by
  have hkey : IsKey "title".toList := by decide
  have hsentence : Template.IsFormatter "sentence".toList := by decide
  have hw : Template.WellFormed
      [.text "[\"".toList, .var "title".toList ["sentence".toList], .text "\"]".toList] :=
    .text (by decide) (by decide) id (.var hkey (fun f hf => List.mem_singleton.mp hf ▸ hsentence)
      (.text (by decide) (by decide) id .nil))
  exact Template.parse_print hw (Nat.zero_le _)

def authorsTemplate : Text :=
  Settings.arrayOf "authors" ("\"[[Author/".toList ++ Settings.tagOf "." ++ "]]\"".toList)

def authorChildren : List Template.Node :=
  [.text "\"[[Author/".toList, .var ['.'] [], .text "]]\",".toList]

def authorNodes : List Template.Node :=
  [.text ['['], .block "authors".toList false authorChildren, .text [']']]

theorem parse_authors : Template.parse authorsTemplate = .ok authorNodes := by
  have hchildren : Template.WellFormed authorChildren :=
    .text (by decide) (by decide) id (.var (by decide) (fun _ hf => absurd hf List.not_mem_nil)
      (.text (by decide) (by decide) id .nil))
  have hname : IsName "authors".toList := by decide
  have hw : Template.WellFormed authorNodes := .text (by decide) (by decide) id
    (.block hname hchildren (.text (by decide) (by decide) id .nil))
  exact Template.parse_print hw (by decide)

theorem isOwn_builtIn {f : CustomField} (hf : f ∈ Settings.defaultCustom)
    (henabled : f.enabled.isSet = true) : IsOwn Settings.builtIn f where
  named := by
    simp only [Settings.defaultCustom, List.mem_cons, List.not_mem_nil, or_false] at hf
    obtain rfl | rfl | rfl | rfl | rfl | rfl | rfl := hf <;> exact .text _
  enabled := henabled
  custom := by
    obtain ⟨before, after, heq⟩ := List.append_of_mem hf
    have hnames : (Settings.defaultCustom.map CustomField.name).Nodup := by decide
    rw [heq, List.map_append, List.map_cons, List.nodup_append, List.nodup_cons] at hnames
    obtain ⟨-, ⟨hafter, -⟩, hbefore⟩ := hnames
    refine ⟨before, after, heq, fun c hc => ?_, fun c hc hname => hafter ?_⟩
    · exact hbefore c.name (List.mem_map_of_mem hc) f.name (List.mem_cons_self ..)
    · exact hname ▸ List.mem_map_of_mem hc
  standard := by
    have hkeys : ∀ f ∈ Settings.defaultCustom, ∀ s ∈ Settings.defaultStandard,
        (s.key.toOption.all fun key => !key.sameKey f.name) = true := by decide
    intro s hs key hkey
    have hsame := hkeys f hf s hs
    rw [hkey] at hsame
    exact Bool.not_eq_eq_eq_not.mp hsame
  tags := by
    have htags : ∀ f ∈ Settings.defaultCustom, f.name ≠ tagsKey := by decide
    exact htags f hf

theorem visits_builtIn {f : CustomField} (hf : f ∈ Settings.defaultCustom) :
    visits Settings.builtIn f.anchor = true := by
  have hvisits : ∀ f ∈ Settings.defaultCustom, visits Settings.builtIn f.anchor = true := by decide
  exact hvisits f hf

theorem get?_build_builtIn (source : Source) {f : CustomField} (hf : f ∈ Settings.defaultCustom)
    (henabled : f.enabled.isSet = true) {name : Text} (hname : f.name = .text name)
    {P : Option Value → Prop} (hvalue : Yields P (customValue f.name f.template source.vars)) :
    Yields (fun fm => P (fm.toRecord.get? name)) (build source Settings.builtIn) := by
  have hlookup :=
    lookup_build_of_yields source (isOwn_builtIn hf henabled) (visits_builtIn hf) hvalue
  simp only [hname, Record.lookup_text] at hlookup
  exact hlookup

theorem exists_key_builtIn {s : StandardField} (hs : s ∈ Settings.defaultStandard) :
    ∃ key, s.key = .ok key := by
  simp only [Settings.defaultStandard, List.mem_cons, List.not_mem_nil, or_false] at hs
  obtain rfl | rfl | rfl | rfl | rfl | rfl | rfl | rfl | rfl | rfl | rfl := hs <;> exact ⟨_, rfl⟩

def without (settings : Settings) (names : List Value) : Settings :=
  { settings with custom := settings.custom.filter fun f => !names.contains f.name }

theorem assembles_of_without {source : Source} {settings : Settings} {names : List Value}
    (h : Assembles source (without settings names))
    (hvalues : ∀ f ∈ settings.custom, f.name ∈ names →
      Returns (customValue f.name f.template source.vars)) : Assembles source settings where
  citation := h.citation
  standard := h.standard
  custom f hf henabled := by
    by_cases hname : f.name ∈ names
    · exact hvalues f hf hname
    · exact h.custom f (List.mem_filter.mpr ⟨hf, by simp [hname]⟩) henabled

theorem eq_of_name {f g : CustomField} (hf : f ∈ Settings.defaultCustom)
    (hg : g ∈ Settings.defaultCustom) (hname : f.name = g.name) : f = g := by
  have hnames : (Settings.defaultCustom.map CustomField.name).Nodup := by decide
  exact List.inj_on_of_nodup_map hnames hf hg hname

end LitNote.FrontMatter
