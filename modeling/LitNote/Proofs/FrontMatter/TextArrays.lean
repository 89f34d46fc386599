import LitNote.Proofs.ArrayLiteral.Quoted
import LitNote.Proofs.FrontMatter.ArrayTemplates
import LitNote.Proofs.Note.Variables

/-!
The title and the names of the authors in the front matter.  Main statement: under the settings that
are built in, they stand there as they are if no character in them has to be escaped in JSON; if
there are no commas in them, only then.
-/

namespace LitNote.FrontMatter

open ArrayLiteral (Pasted inQuotes)
open Drawing (Yields Returns)
open Note (texts)
open Template.Formatter (sentenceCase)

/-- A field shows some texts if nothing in what they are made of has to be escaped.  If there are no
commas, this is also the only case. -/
def Keeps (given shown : List Text) (r : Option Value) : Prop :=
  ((∀ s ∈ given, Json.IsPlainText s) → r = some (texts shown)) ∧
    ((∀ s ∈ given, ',' ∉ s) → r = some (texts shown) → ∀ s ∈ given, Json.IsPlainText s)

theorem Keeps.of_iff {given shown : List Text} {r : Option Value} (h : Keeps shown shown r)
    (hplain : (∀ s ∈ shown, Json.IsPlainText s) ↔ ∀ s ∈ given, Json.IsPlainText s)
    (hcomma : (∀ s ∈ given, ',' ∉ s) → ∀ s ∈ shown, ',' ∉ s) : Keeps given shown r :=
  ⟨fun hgiven => h.1 (hplain.mpr hgiven),
    fun hnone hr => hplain.mp (h.2 (hcomma hnone) hr)⟩

section
variable {ts : List Text} {content : Text}

theorem storedLiteral_of_isPlain (h : Pasted ts content) (hplain : ∀ t ∈ ts, Json.IsPlainText t) :
    storedLiteral content = .ok (some (texts ts)) := by
  rw [storedLiteral, h.normalize_of_isPlain hplain]
  exact storedValue_texts ts

theorem isPlainText_of_storedLiteral (h : Pasted ts content) (hcomma : ∀ t ∈ ts, ',' ∉ t)
    (hstored : storedLiteral content = .ok (some (texts ts))) :
    ∀ t ∈ ts, Json.IsPlainText t := by
  by_cases hne : ts = []
  · rw [hne]
    exact fun t ht => absurd ht List.not_mem_nil
  obtain ⟨u, hu, hstored⟩ := Failure.bind_eq_ok_iff.mp hstored
  cases h.normalize_of_noComma hne hcomma hu
  obtain ⟨v, hv, hread⟩ := exists_read_of_storedValue (looksStructured_bracketed _) hstored
  cases Pasted.joined.normalize_of_noComma hne hcomma hv
  exact ArrayLiteral.isPlainText_of_read hread

theorem keeps_of_storedLiteral (h : Pasted ts content) {r : Option Value}
    (hr : storedLiteral content = .ok r) : Keeps ts ts r := by
  refine ⟨fun hplain => ?_, fun hcomma hshown => ?_⟩
  · rw [storedLiteral_of_isPlain h hplain] at hr
    exact (Except.ok.inj hr).symm
  · rw [hshown] at hr
    exact isPlainText_of_storedLiteral h hcomma hr

end

theorem isPlainText_sentenceCase (title : Text) :
    Json.IsPlainText (sentenceCase title) ↔ Json.IsPlainText title := by
  cases title with
  | nil => rfl
  | cons c rest =>
    have hfirst : (∀ d ∈ Text.upperOf c, Json.IsPlain d) ↔ Json.IsPlain c := by
      constructor
      · intro h
        by_contra hc
        rw [Json.upperOf_of_not_isPlain hc] at h
        exact hc (h c (List.mem_singleton.mpr rfl))
      · intro hc d hd
        obtain rfl | hbeyond := Text.isBeyondMarks_of_mem_upperOf hd
        · exact hc
        · exact (Json.isPlain_of_isBeyondMarks hbeyond).1
    rw [sentenceCase, Json.IsPlainText, List.forall_mem_append, hfirst]
    exact (List.forall_mem_cons ..).symm

theorem comma_not_mem_sentenceCase {title : Text} (h : ',' ∉ title) : ',' ∉ sentenceCase title := by
  cases title with
  | nil => exact h
  | cons c rest =>
    rw [List.mem_cons, not_or] at h
    rw [sentenceCase, List.mem_append, not_or]
    refine ⟨fun hmem => ?_, h.2⟩
    obtain heq | hbeyond := Text.isBeyondMarks_of_mem_upperOf hmem
    · exact h.1 heq
    · exact (Json.isPlain_of_isBeyondMarks hbeyond).2 rfl

def aliasesField : CustomField := Settings.customField "aliases" aliasesTemplate true

theorem mem_aliasesField : aliasesField ∈ Settings.defaultCustom :=
  List.mem_of_getElem? (show Settings.defaultCustom[3]? = some aliasesField from rfl)

theorem customValue_aliases {vars : Record} {title : Text}
    (hget : vars.get? "title".toList = some (.text title)) :
    customValue aliasesField.name aliasesField.template (.record vars) =
      Drawing.failing (storedLiteral (inQuotes (sentenceCase title))) := by
  have hvar : Template.renderNode [vars] (.var "title".toList ["sentence".toList]) =
      pure (sentenceCase title) := by
    have hscope : Scope.get? [vars] "title".toList = some (.text title) := by
      rw [Scope.get?_cons, hget]
      rfl
    rw [Template.renderNode, Template.renderVariable_of_get? _ (by decide) hscope,
      Template.renderValue_of_formatters (List.cons_ne_nil _ _) Value.noConfusion
        Value.noConfusion]
    exact Template.applyChain_single (f := .sentence) (by decide) (by decide) (by decide) rfl rfl
  have hnodes : Template.renderNodes [vars] [.text "[\"".toList,
      .var "title".toList ["sentence".toList], .text "\"]".toList] =
        pure (ArrayLiteral.bracketed (inQuotes (sentenceCase title))) := by
    have hliteral : "[\"".toList ++ (sentenceCase title ++ ("\"]".toList ++ [])) =
        ArrayLiteral.bracketed (inQuotes (sentenceCase title)) := by
      simp [ArrayLiteral.bracketed, inQuotes, ArrayLiteral.Item.spelling]
    rw [← hliteral]
    exact Template.renderNodes_text (Template.renderNodes_cons hvar
      (Template.renderNodes_text (Template.renderNodes_nil _)))
  exact customValue_of_literal rfl (Template.render_of_parse parse_aliases hnodes)

def authorLink (name : Text) : Text := Note.doubleBrackets ("Author/".toList ++ name)

def authorLinks (names : List Text) : List Text := (names.filter (!·.isEmpty)).map authorLink

theorem authorLink_eq (name : Text) :
    authorLink name = "[[Author/".toList ++ (name ++ "]]".toList) := rfl

theorem isPlainText_authorLink (name : Text) :
    Json.IsPlainText (authorLink name) ↔ Json.IsPlainText name := by
  have hopen : Json.IsPlainText "[[Author/".toList := by decide
  have hclose : Json.IsPlainText "]]".toList := by decide
  rw [Json.IsPlainText, authorLink_eq, List.forall_mem_append, List.forall_mem_append]
  exact ⟨fun h => h.2.1, fun h => ⟨hopen, h, hclose⟩⟩

theorem isPlainText_authorLinks (names : List Text) :
    (∀ l ∈ authorLinks names, Json.IsPlainText l) ↔ ∀ name ∈ names, Json.IsPlainText name := by
  simp only [authorLinks, List.forall_mem_map, isPlainText_authorLink, List.mem_filter]
  constructor
  · intro h name hname c hc
    exact h name ⟨hname, by simp [List.ne_nil_of_mem hc]⟩ c hc
  · exact fun h name hname => h name hname.1

theorem comma_not_mem_authorLinks {names : List Text} (h : ∀ name ∈ names, ',' ∉ name) :
    ∀ l ∈ authorLinks names, ',' ∉ l := by
  intro l hl
  obtain ⟨name, hname, rfl⟩ := List.mem_map.mp hl
  rw [authorLink_eq, List.mem_append, List.mem_append, not_or, not_or]
  exact ⟨by decide, h name (List.mem_filter.mp hname).1, by decide⟩

def authorLinksField : CustomField := Settings.customField "author-links" authorsTemplate true

theorem mem_authorLinksField : authorLinksField ∈ Settings.defaultCustom :=
  List.mem_of_getElem? (show Settings.defaultCustom[4]? = some authorLinksField from rfl)

theorem customValue_authorLinks {vars : Record} {names : List Text}
    (hget : vars.get? "authors".toList =
      some (.list ((names.map Value.text).filter Value.isSet))) :
    customValue authorLinksField.name authorLinksField.template (.record vars) = Drawing.failing
      (storedLiteral (ArrayLiteral.commaed ((authorLinks names).map inQuotes))) := by
  have hnames : (names.map Value.text).filter Value.isSet =
      (names.filter (!·.isEmpty)).map Value.text := List.filter_map ..
  have hscope : Scope.get? [vars] "authors".toList =
      some (texts (names.filter (!·.isEmpty))) := by
    rw [Scope.get?_cons, hget, hnames]
    rfl
  have hitem (l : Text) (i n : Nat) :
      Template.renderNodes [Template.loopRecord (.text l) i n, vars] authorChildren =
        pure (inQuotes (authorLink l) ++ [',']) := by
    have hliteral : "\"[[Author/".toList ++ (l ++ ("]]\",".toList ++ [])) =
        inQuotes (authorLink l) ++ [','] := by
      simp [inQuotes, ArrayLiteral.Item.spelling, authorLink, Note.doubleBrackets]
    rw [← hliteral]
    exact Template.renderNodes_text (Template.renderNodes_cons (renderNode_item [vars] l i n)
      (Template.renderNodes_text (Template.renderNodes_nil _)))
  have hall : (names.filter (!·.isEmpty)).flatMap (fun l => inQuotes (authorLink l) ++ [',']) =
      ArrayLiteral.commaed ((authorLinks names).map inQuotes) := by
    rw [ArrayLiteral.commaed, authorLinks, List.map_map, List.flatMap_map]
    rfl
  have hnodes : Template.renderNodes [vars] authorNodes = pure (ArrayLiteral.bracketed
      (ArrayLiteral.commaed ((authorLinks names).map inQuotes))) :=
    hall ▸ renderNodes_list hscope fun l i => hitem l i _
  exact customValue_of_literal (ArrayLiteral.isTemplate_bracketed _)
    (Template.render_of_parse parse_authors hnodes)

section
variable {fields : Record} {contributors : List Contributor} {title : Text} {names : List Text}

/-- The front matter has the title and the links to the authors that have names, as `Keeps` says.
There are variables, and there is such a front matter if nothing in the title and the names has to
be escaped and the other fields make one. -/
theorem build_textArrays (hkeys : (fields.map Prod.fst).Nodup)
    (htitle : fields.get? "title".toList = some (.text title))
    (hauthors : ∀ c ∈ contributors, c.IsNamedAuthor)
    (hnames : contributors.mapM Contributor.fullName = .ok (names.map .text))
    (context : Note.Context) (listed : List Contributor.Listed) :
    ∃ vars, Note.templateVars (.record fields) contributors context = .ok vars ∧
      Yields (fun fm => Keeps [title] [sentenceCase title] (fm.toRecord.get? "aliases".toList))
        (build ⟨.record fields, listed, .record vars⟩ Settings.builtIn) ∧
      (contributors ≠ [] →
        Yields (fun fm => Keeps names (authorLinks names) (fm.toRecord.get? "author-links".toList))
          (build ⟨.record fields, listed, .record vars⟩ Settings.builtIn)) ∧
      (Json.IsPlainText title →
        Assembles ⟨.record fields, listed, .record vars⟩
          (without Settings.builtIn [.text "aliases".toList]) →
        Returns (build ⟨.record fields, listed, .record vars⟩ Settings.builtIn)) ∧
      (contributors ≠ [] → Json.IsPlainText title → (∀ name ∈ names, Json.IsPlainText name) →
        Assembles ⟨.record fields, listed, .record vars⟩
          (without Settings.builtIn [.text "aliases".toList, .text "author-links".toList]) →
        Returns (build ⟨.record fields, listed, .record vars⟩ Settings.builtIn)) := by
  obtain ⟨vars, hvars⟩ := Note.exists_templateVars fields hauthors context
  have hroles : ∀ c ∈ contributors, c.role = Contributor.authorRole :=
    fun c hc => (hauthors c hc).role
  have haliases := customValue_aliases
    (Note.get?_of_citation hroles hnames hvars hkeys htitle (by decide))
  have hauthorLinks (hne : contributors ≠ []) :=
    customValue_authorLinks (Note.get?_authors hroles hnames hne hvars)
  have hpasted := Pasted.single (sentenceCase title)
  have hshown (hplain : Json.IsPlainText title) :
      ∀ s ∈ [sentenceCase title], Json.IsPlainText s :=
    List.forall_mem_singleton.mpr ((isPlainText_sentenceCase title).mpr hplain)
  -- First what the two fields show in a front matter, then that there is one.
  refine ⟨vars, hvars, ?_, fun hne => ?_, ?_, fun hne hplain hplains hothers => ?_⟩
  · refine get?_build_builtIn _ mem_aliasesField rfl rfl ?_
    rw [haliases]
    refine .failing fun r hr => (keeps_of_storedLiteral hpasted hr).of_iff ?_ ?_
    · rw [List.forall_mem_singleton, List.forall_mem_singleton, isPlainText_sentenceCase]
    · rw [List.forall_mem_singleton, List.forall_mem_singleton]
      exact comma_not_mem_sentenceCase
  · refine get?_build_builtIn _ mem_authorLinksField rfl rfl ?_
    rw [hauthorLinks hne]
    exact .failing fun r hr => (keeps_of_storedLiteral .commaed hr).of_iff
      (isPlainText_authorLinks names) comma_not_mem_authorLinks
  · intro hplain hothers
    refine build_returns (assembles_of_without hothers fun f hf hname => ?_)
    rw [List.mem_singleton] at hname
    rw [eq_of_name hf mem_aliasesField hname, haliases]
    exact .failing ⟨_, storedLiteral_of_isPlain hpasted (hshown hplain)⟩
  · refine build_returns (assembles_of_without hothers fun f hf hname => ?_)
    obtain hname | hname := List.mem_cons.mp hname
    · rw [eq_of_name hf mem_aliasesField hname, haliases]
      exact .failing ⟨_, storedLiteral_of_isPlain hpasted (hshown hplain)⟩
    · rw [List.mem_singleton] at hname
      rw [eq_of_name hf mem_authorLinksField hname, hauthorLinks hne]
      exact .failing ⟨_, storedLiteral_of_isPlain .commaed
        ((isPlainText_authorLinks names).mpr hplains)⟩

end

def mapsFields : Record := Record.ofFields [("title", .text "sets, and maps".toList)]

def namedAuthor (given family literal : String) : Contributor :=
  ⟨Contributor.authorRole, .text given.toList, .text family.toList, .text literal.toList, []⟩

def mapsAuthors : List Contributor :=
  [namedAuthor "John" "Smith" "", namedAuthor "" "" "", namedAuthor "" "" "Jones"]

def mapsNames : List Text := ["John Smith".toList, [], "Jones".toList]

theorem isNamedAuthor_mapsAuthors : ∀ c ∈ mapsAuthors, c.IsNamedAuthor := by
  have hnamed (given family literal : String) : (namedAuthor given family literal).IsNamedAuthor :=
    ⟨rfl, ⟨_, rfl⟩, ⟨_, rfl⟩, ⟨_, rfl⟩⟩
  intro c hc
  simp only [mapsAuthors, List.mem_cons, List.not_mem_nil, or_false] at hc
  obtain rfl | rfl | rfl := hc <;> exact hnamed _ _ _

def mapsVars : Record :=
  (Note.templateVars (.record mapsFields) mapsAuthors default).toOption.getD []

theorem assembles_maps : Assembles ⟨.record mapsFields, [], .record mapsVars⟩
    (without Settings.builtIn [.text "aliases".toList, .text "author-links".toList]) where
  citation := ⟨mapsFields, [], rfl, by decide, rfl⟩
  standard s hs _ := exists_key_builtIn hs
  custom := by
    have hcustom :
        (without Settings.builtIn [.text "aliases".toList, .text "author-links".toList]).custom =
          Settings.defaultCustom.take 3 ++ Settings.defaultCustom.drop 5 := rfl
    have hyear : Template.IsKey "year".toList := by decide
    have hdate : Template.IsKey "currentDate".toList := by decide
    intro c hc henabled
    simp only [hcustom, Settings.defaultCustom, List.take, List.drop, List.cons_append,
      List.nil_append, List.mem_cons, List.not_mem_nil, or_false] at hc
    obtain rfl | rfl | rfl | rfl | rfl := hc
    · exact returns_of_parse rfl (Template.parse_tag hyear) rfl ⟨_, rfl⟩
    · exact returns_of_parse rfl (Template.parse_tag hdate) rfl ⟨_, rfl⟩
    · have hvalue := customValue_plain (s := "to-read".toList) (by decide) (by decide) (by decide)
        (.text "reading-status".toList) mapsVars
      exact hvalue ▸ .pure _
    · exact returns_of_parse rfl parse_attachments rfl ⟨_, rfl⟩
    · cases henabled

theorem build_textArrays_maps :
    ∃ vars fm d, Note.templateVars (.record mapsFields) mapsAuthors default = .ok vars ∧
      (build ⟨.record mapsFields, [], .record vars⟩ Settings.builtIn).run ⟨0⟩ = (.ok fm, d) ∧
      fm.toRecord.get? "aliases".toList = some (texts ["Sets, and maps".toList]) ∧
      fm.toRecord.get? "author-links".toList =
        some (texts ["[[Author/John Smith]]".toList, "[[Author/Jones]]".toList]) := by
  have hkeys : (mapsFields.map Prod.fst).Nodup := List.nodup_singleton _
  have hget : mapsFields.get? "title".toList = some (.text "sets, and maps".toList) := rfl
  have hfull : mapsAuthors.mapM Contributor.fullName = .ok (mapsNames.map .text) := rfl
  have htitle : Json.IsPlainText "sets, and maps".toList := by decide
  have hnames : ∀ name ∈ mapsNames, Json.IsPlainText name := by decide
  obtain ⟨vars, hvars, haliases, hlinks, -, hreturns⟩ :=
    build_textArrays hkeys hget isNamedAuthor_mapsAuthors hfull default []
  have hmaps : vars = mapsVars := by
    rw [mapsVars, hvars]
    rfl
  have hne : mapsAuthors ≠ [] := List.cons_ne_nil _ _
  obtain ⟨fm, d, hrun⟩ := hreturns hne htitle hnames (hmaps ▸ assembles_maps) ⟨0⟩
  have hkept := (haliases _ _ _ hrun).1 (List.forall_mem_singleton.mpr htitle)
  exact ⟨vars, fm, d, hvars, hrun, hkept, (hlinks hne _ _ _ hrun).1 hnames⟩

def quoteFields : Record := Record.ofFields [("title", .text "a\"b".toList)]

def quoteVars : Record := (Note.templateVars (.record quoteFields) [] default).toOption.getD []

theorem build_aliases_quote :
    quoteVars.get? "title".toList = some (.text "a\"b".toList) ∧
      sentenceCase "a\"b".toList = "A\"b".toList ∧
      ((build ⟨.record quoteFields, [], .record quoteVars⟩ Settings.builtIn).run ⟨0⟩).1.toOption.map
          (·.toRecord.get? "aliases".toList) = some (some (.text "[\"A\"b\"]".toList)) :=
  ⟨by decide +kernel, by decide, by decide +kernel⟩

end LitNote.FrontMatter
