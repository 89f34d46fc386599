import LitNote.Proofs.FrontMatter.ArrayTemplates
import LitNote.Proofs.Note.Attachment

/-!
Attachments in the front matter.  Main statement: under the settings that are built in, the links to
the attachments stand there as they are, one by one, if there is no comma in their paths, and only
then.
-/

namespace LitNote.FrontMatter

open Drawing (Yields Returns)
open Note (attachmentLink texts)
open Template (IsKey)

theorem renderNodes_attachments {scope : Scope} {x : Text} {ls : List Text}
    (hget : scope.get? x = some (texts ls)) : Template.renderNodes scope (listNodes x) =
      pure (ArrayLiteral.bracketed (ArrayLiteral.commaed ls)) :=
  renderNodes_list hget fun l i => Template.renderNodes_cons (renderNode_item scope l i _)
    (Template.renderNodes_text (Template.renderNodes_nil _))

theorem noComma_of_storedValue {is ts : List Text} (h : ∀ i ∈ is, ArrayLiteral.IsRepaired i)
    (hstored : storedValue true (ArrayLiteral.literalOf is) = .ok (some (texts ts))) :
    ∀ t ∈ ts, ',' ∉ t := by
  obtain ⟨t, ht, hread⟩ := exists_read_of_storedValue (looksStructured_bracketed _) hstored
  cases ArrayLiteral.normalize_literalOf h ht
  exact ArrayLiteral.noComma_of_read h hread

def storedLinks (ls : List Text) : Except Failure (Option Value) :=
  (ArrayLiteral.normalize (ArrayLiteral.bracketed (ArrayLiteral.commaed ls))).bind
    (storedValue true)

theorem storedLinks_iff {ls : List Text} {r : Option Value}
    (hls : ∀ l ∈ ls, ArrayLiteral.IsPlainLink l) (h : storedLinks ls = .ok r) :
    r = some (texts ls) ↔ ∀ l ∈ ls, ',' ∉ l := by
  obtain ⟨t, ht, hstored⟩ := Failure.bind_eq_ok_iff.mp h
  have ht := ArrayLiteral.normalize_commaed hls ht
  constructor
  · rintro rfl
    rw [ArrayLiteral.repair_eq] at ht
    rw [ht] at hstored
    have hplain := ArrayLiteral.isPlainText_bracketed
      (ArrayLiteral.isPlainText_commaed fun l hl => (hls l hl).plain)
    exact noComma_of_storedValue (ArrayLiteral.isRepaired_of_mem_repair hplain) hstored
  · intro hcomma
    rw [ht, ArrayLiteral.repair_commaed hls hcomma, storedValue_texts] at hstored
    exact (Except.ok.inj hstored).symm

theorem exists_storedLinks {ls : List Text} (hls : ∀ l ∈ ls, ArrayLiteral.IsPlainLink l)
    (hcomma : ∀ l ∈ ls, ',' ∉ l) (hbar : ∀ l ∈ ls, ArrayLiteral.HasBar l) :
    ∃ r, storedLinks ls = .ok r := by
  obtain ⟨t, ht⟩ := ArrayLiteral.exists_normalize_commaed hls hbar
  have hrepair := ArrayLiteral.normalize_commaed hls ht
  rw [ArrayLiteral.repair_commaed hls hcomma] at hrepair
  refine ⟨some (texts ls), Failure.bind_eq_ok_iff.mpr ⟨t, ht, ?_⟩⟩
  rw [hrepair, storedValue_texts]

theorem customValue_listTemplate {vars : Record} {ls : List Text}
    (hget : vars.get? "attachments".toList = some (texts ls)) (name : Value) :
    customValue name (listTemplate "attachments") (.record vars) =
      Drawing.failing (storedLinks ls) := by
  have hscope : Scope.get? [vars] "attachments".toList = some (texts ls) := by
    rw [Scope.get?_cons, hget]
    rfl
  have hrender := Template.render_of_parse parse_attachments (renderNodes_attachments hscope)
  exact customValue_of_literal (ArrayLiteral.isTemplate_bracketed _) hrender

def attachmentField : CustomField :=
  Settings.customField "attachment" (listTemplate "attachments") true

def otherSettings : Settings :=
  { Settings.builtIn with custom := Settings.defaultCustom.eraseIdx 5 }

theorem mem_attachmentField : attachmentField ∈ Settings.defaultCustom :=
  List.mem_of_getElem? (show Settings.defaultCustom[5]? = some attachmentField from rfl)

theorem assembles_builtIn {source : Source} (h : Assembles source otherSettings)
    (hvalue : Returns (customValue attachmentField.name attachmentField.template source.vars)) :
    Assembles source Settings.builtIn where
  citation := h.citation
  standard := h.standard
  custom c hc henabled := by
    have hsplit : Settings.builtIn.custom =
        Settings.defaultCustom.take 5 ++ attachmentField :: Settings.defaultCustom.drop 6 := rfl
    rw [hsplit] at hc
    obtain hc | hc := List.mem_append.mp hc
    · exact h.custom c (List.mem_append_left (Settings.defaultCustom.drop 6) hc) henabled
    obtain rfl | hc := List.mem_cons.mp hc
    · exact hvalue
    · exact h.custom c (List.mem_append_right (Settings.defaultCustom.take 5) hc) henabled

section
variable {citation : Value} {contributors : List Contributor} {context : Note.Context}
  {vars : Record}

/-- The front matter has the links under the name of attachments, one by one, if there is no comma
in the paths, and only then.  There is such a front matter if the other fields make one, and the
brackets in the paths are few. -/
theorem build_attachment (hvars : Note.templateVars citation contributors context = .ok vars)
    (hplain : ∀ path ∈ context.attachments, Json.IsPlainText path)
    (listed : List Contributor.Listed) :
    vars.get? "attachments".toList = some (texts (context.attachments.map attachmentLink)) ∧
    Yields (fun fm => fm.toRecord.get? "attachment".toList =
        some (texts (context.attachments.map attachmentLink)) ↔
          ∀ path ∈ context.attachments, ',' ∉ path)
      (build ⟨citation, listed, .record vars⟩ Settings.builtIn) ∧
    ((∀ path ∈ context.attachments, ',' ∉ path ∧ Note.FewBrackets path) →
      Assembles ⟨citation, listed, .record vars⟩ otherSettings →
      Returns (build ⟨citation, listed, .record vars⟩ Settings.builtIn)) := by
  have hget := Note.get?_attachments hvars
  have hvalue : customValue attachmentField.name attachmentField.template (.record vars) =
      Drawing.failing (storedLinks (context.attachments.map attachmentLink)) :=
    customValue_listTemplate hget attachmentField.name
  have hlinks : ∀ l ∈ context.attachments.map attachmentLink, ArrayLiteral.IsPlainLink l :=
    List.forall_mem_map.mpr fun path hpath => Note.isPlainLink_attachmentLink (hplain path hpath)
  have hcomma : (∀ l ∈ context.attachments.map attachmentLink, ',' ∉ l) ↔
      ∀ path ∈ context.attachments, ',' ∉ path := by
    simp only [List.forall_mem_map, Note.comma_mem_attachmentLink]
  refine ⟨hget, ?_, fun hpaths hothers => ?_⟩
  · have hyields : Yields (fun r => r = some (texts (context.attachments.map attachmentLink)) ↔
        ∀ path ∈ context.attachments, ',' ∉ path)
        (customValue attachmentField.name attachmentField.template (.record vars)) := by
      rw [← hcomma, hvalue]
      exact .failing fun r hr => storedLinks_iff hlinks hr
    exact get?_build_builtIn ⟨citation, listed, .record vars⟩ mem_attachmentField rfl rfl hyields
  · have hbars : ∀ l ∈ context.attachments.map attachmentLink, ArrayLiteral.HasBar l := by
      intro l hl
      obtain ⟨path, hpath, rfl⟩ := List.mem_map.mp hl
      exact Note.hasBar_attachmentLink (hpaths path hpath).2
    have hnone := hcomma.mpr fun path hpath => (hpaths path hpath).1
    have hreturns : Returns
        (customValue attachmentField.name attachmentField.template (.record vars)) := by
      rw [hvalue]
      exact .failing (exists_storedLinks hlinks hnone hbars)
    exact build_returns (assembles_builtIn hothers hreturns)

end

def scans : Note.Context := ⟨default, ["scans/b [1].pdf".toList, "c".toList], []⟩

def scansVars : Record := (Note.templateVars (.record []) [] scans).toOption.getD []

theorem templateVars_scans : Note.templateVars (.record []) [] scans = .ok scansVars := by
  obtain ⟨vars, hvars⟩ : ∃ vars, Note.templateVars (.record []) [] scans = .ok vars := ⟨_, rfl⟩
  rw [scansVars, hvars]
  rfl

theorem assembles_scans : Assembles ⟨.record [], [], .record scansVars⟩ otherSettings where
  citation := ⟨[], [], rfl, by decide, rfl⟩
  standard s hs _ := exists_key_builtIn hs
  custom := by
    intro c hc henabled
    have hyear : IsKey "year".toList := by decide
    have hdate : IsKey "currentDate".toList := by decide
    simp only [otherSettings, Settings.defaultCustom, List.eraseIdx, List.mem_cons,
      List.not_mem_nil, or_false] at hc
    obtain rfl | rfl | rfl | rfl | rfl | rfl := hc
    · exact returns_of_parse rfl (Template.parse_tag hyear) rfl ⟨_, rfl⟩
    · exact returns_of_parse rfl (Template.parse_tag hdate) rfl ⟨_, rfl⟩
    · have hvalue := customValue_plain (s := "to-read".toList) (by decide) (by decide) (by decide)
        (.text "reading-status".toList) scansVars
      exact hvalue ▸ .pure _
    · exact returns_of_parse rfl parse_aliases rfl ⟨_, rfl⟩
    · exact returns_of_parse rfl parse_authors rfl ⟨_, rfl⟩
    · cases henabled

theorem build_attachment_scans :
    ∃ fm d, (build ⟨.record [], [], .record scansVars⟩ Settings.builtIn).run ⟨0⟩ = (.ok fm, d) ∧
      fm.toRecord.get? "attachment".toList =
        some (texts ["[[scans/b [1].pdf|PDF]]".toList, "[[c|FILE]]".toList]) := by
  have hplain : ∀ path ∈ scans.attachments, Json.IsPlainText path := by
    simp only [scans, List.forall_mem_cons]
    exact ⟨by decide, by decide, fun _ h => absurd h List.not_mem_nil⟩
  have hpaths : ∀ path ∈ scans.attachments, ',' ∉ path ∧ Note.FewBrackets path := by
    simp only [scans, List.forall_mem_cons]
    exact ⟨⟨by decide, by decide⟩, ⟨by decide, by decide⟩, fun _ h => absurd h List.not_mem_nil⟩
  obtain ⟨-, hyields, hreturns⟩ := build_attachment templateVars_scans hplain []
  obtain ⟨fm, d, hrun⟩ := hreturns hpaths assembles_scans ⟨0⟩
  exact ⟨fm, d, hrun, (hyields _ _ _ hrun).mpr fun path hpath => (hpaths path hpath).1⟩

def commaVars : Record :=
  (Note.templateVars (.record []) [] ⟨default, ["a,b.pdf".toList], []⟩).toOption.getD []

theorem attachment_comma :
    Json.IsPlainText "a,b.pdf".toList ∧
      commaVars.get? "attachments".toList = some (texts ["[[a,b.pdf|PDF]]".toList]) ∧
      ((build ⟨.record [], [], .record commaVars⟩ Settings.builtIn).run ⟨0⟩).1.toOption.map
          (·.toRecord.get? "attachment".toList) =
        some (some (.text "[[[a,b.pdf|PDF]]]".toList)) :=
  ⟨by decide, by decide +kernel, by decide +kernel⟩

end LitNote.FrontMatter
