import LitNote.Proofs.Citation.Author
import LitNote.Proofs.Citation.Key
import LitNote.Proofs.Citation.Variables

/-!
Keys without a template.  Main statement: the template that counts by default makes the key that is
made without one, if there is a year and the key is long enough.
-/

namespace LitNote.Key

open Template (Node WellFormed renderNode renderNodes parse print)

variable {r vars : Record} {author year key : Text}

def defaultNodes : List Node := [.var "author".toList ["lowercase".toList], .var "year".toList []]

theorem expand_defaultTemplate :
    Bracket.expand Options.defaultTemplate = Options.defaultTemplate := by
  decide

theorem parse_defaultTemplate : parse Options.defaultTemplate = .ok defaultNodes := by
  have hformatters : ∀ f ∈ ["lowercase".toList], Template.IsFormatter f := by decide
  have hw : WellFormed defaultNodes :=
    .var (by decide) hformatters (.var (by decide) (fun _ hf => absurd hf List.not_mem_nil) .nil)
  have hprint : print defaultNodes = Options.defaultTemplate := by decide
  rw [← hprint]
  exact Template.parse_print hw (Nat.zero_le _)

theorem renderNodes_default (h : Author.part (.record r) = .ok author)
    (hvars : HoldDerived r author year vars) :
    renderNodes [vars] defaultNodes = pure (author ++ year) := by
  have hlower : Template.Formatter.applyChain (.text author) ["lowercase".toList] =
      pure author := by
    refine Template.applyChain_single (f := .lower) (by decide) (by decide) (by decide) rfl ?_
    show Drawing.failing (.ok (Text.toLower author)) = _
    rw [Author.toLower_of_part h]
    rfl
  have hauthor : renderNode [vars] (.var "author".toList ["lowercase".toList]) = pure author := by
    rw [renderNode, renderVariable_of_vars _ (by decide) hvars.author, ← hlower]
    exact Template.renderValue_of_formatters (List.cons_ne_nil _ _) (by nofun) (by nofun)
  have hyear : renderNode [vars] (.var "year".toList []) = pure year := by
    rw [renderNode, renderVariable_text (by decide) hvars.year]
  have hnodes := Template.renderNodes_cons hauthor
    (Template.renderNodes_cons hyear (Template.renderNodes_nil [vars]))
  rw [List.append_nil] at hnodes
  exact hnodes

theorem lengthened_of_le {least : Nat} (h : least ≤ key.length) :
    lengthened key (.int least) = pure key := by
  have hlong : ¬((key.length : Int) < least) := by omega
  show (do
    let least ← Drawing.failing (.ok (least : Int))
    if key.length < least then return key ++ (← Drawing.digits) else return key : Drawing Text) = _
  rw [Drawing.failing_ok_bind, if_neg hlong]

theorem ofTemplate_default (h : Author.part (.record r) = .ok author)
    (hyear : Year.part (.record r) = .ok year)
    (hlong : 6 ≤ (KeyText.sanitize (author ++ year)).length) :
    ofTemplate Options.defaultTemplate (.int 6) (.record r) =
      pure (KeyText.sanitize (author ++ year)) := by
  obtain ⟨vars, hvars, hderived⟩ := exists_templateVars h hyear
  have hrender := Template.render_of_parse parse_defaultTemplate (renderNodes_default h hderived)
  rw [ofTemplate, hvars, Drawing.failing_ok_bind, expand_defaultTemplate,
    Template.renderAs_of_render _ hrender]
  exact lengthened_of_le hlong

theorem ofAuthorYear_of_year (now : Date) {citation : Value}
    (h : Author.part citation = .ok author) (hyear : Year.part citation = .ok year)
    (hne : year ≠ []) :
    ofAuthorYear now citation = .ok (KeyText.sanitize (author ++ year)) := by
  have hempty : ¬year.isEmpty = true := fun he => hne (List.isEmpty_iff.mp he)
  rw [ofAuthorYear, h, Failure.ok_bind, hyear, Failure.ok_bind]
  simp only [if_neg hempty]
  rfl

theorem outcome_of_attempt {now : Date} {options : Except Failure Options}
    (h : attempt now (.record r) options = pure key) (d : Draws) :
    outcome now (.record r) options d = (.made key, d) := by
  have hdata : ¬(Value.record r == .null) = true := nofun
  rw [outcome, if_neg hdata, Drawing.run_of_eq_pure h]

theorem generate_of_attempt {now : Date} {options : Except Failure Options}
    (h : attempt now (.record r) options = pure key) (hne : key ≠ []) (d : Draws) :
    (generate now (.record r) options).run d = (.ok key, d) := by
  have htext : Outcome.text (.made key) = key := by
    obtain ⟨c, key, rfl⟩ := List.exists_cons_of_ne_nil hne
    rfl
  show (Except.ok (outcome now (.record r) options d).1.text,
    (outcome now (.record r) options d).2) = (.ok key, d)
  rw [outcome_of_attempt h, htext]

/-- Options whose template is blank, however they are given. -/
def LeavesBlank (options : Except Failure Options) : Prop :=
  ∃ o template, options = .ok o ∧ templateText o.template = .ok template ∧
    template.all Text.isBlank = true

theorem leavesBlank_merged {o : Options} {t : Text} (h : o.template = .text t)
    (hblank : t.all Text.isBlank = true) : LeavesBlank (.ok o.merged) := by
  have hgiven : o.merged.template = .text t := by
    rw [Options.merged, h]
    rfl
  cases t with
  | nil => exact ⟨o.merged, [], rfl, by rw [hgiven]; rfl, rfl⟩
  | cons c t => exact ⟨o.merged, c :: t, rfl, by rw [hgiven]; rfl, hblank⟩

theorem leavesBlank_ofValue {entries : Record} {t : Text} {o : Options}
    (hread : Options.ofValue (.record entries) = .ok o)
    (h : Options.supplied .template entries = .text t) (hblank : t.all Text.isBlank = true) :
    LeavesBlank (Options.ofValue (.record entries)) := by
  have hmerged : o = (⟨.text t, Options.supplied .minLength entries⟩ : Options).merged := by
    have hnull : ¬(Value.record entries == .null) = true := nofun
    rw [Options.ofValue, if_neg hnull] at hread
    obtain ⟨entries', hentries, hread⟩ := Failure.bind_eq_ok_iff.mp hread
    obtain ⟨shown, -, hread⟩ := Failure.bind_eq_ok_iff.mp hread
    cases hentries
    cases hread
    rw [Options.ofRecord, h]
    rfl
  rw [hread, hmerged]
  exact leavesBlank_merged rfl hblank

theorem attempt_blank {options : Except Failure Options} (hblank : LeavesBlank options)
    (now : Date) (citation : Value) :
    attempt now citation options = Drawing.failing (ofAuthorYear now citation) := by
  obtain ⟨o, template, rfl, htemplate, hall⟩ := hblank
  rw [attempt, Drawing.failing_ok_bind, htemplate, Drawing.failing_ok_bind, if_pos hall]

theorem attempt_default (now : Date) (citation : Value) :
    attempt now citation (Options.ofValue .null) =
      ofTemplate Options.defaultTemplate (.int 6) citation := by
  have htemplate : templateText Options.standard.template = .ok Options.defaultTemplate := by
    decide
  have hblank : ¬Options.defaultTemplate.all Text.isBlank = true := by decide
  show attempt now citation (.ok Options.standard) = _
  rw [attempt, Drawing.failing_ok_bind, htemplate, Drawing.failing_ok_bind, if_neg hblank]
  rfl

/-- The default options and a blank template make the same key of author and year, if there is a
year and the key is not too short.  Nothing is drawn for it. -/
theorem generate_default_eq_blank {options : Except Failure Options}
    (h : Author.part (.record r) = .ok author) (hyear : Year.part (.record r) = .ok year)
    (hne : year ≠ []) (hlong : 6 ≤ (KeyText.sanitize (author ++ year)).length)
    (hblank : LeavesBlank options) (now : Date) (d : Draws) :
    (generate now (.record r) (Options.ofValue .null)).run d =
        (.ok (KeyText.sanitize (author ++ year)), d) ∧
      (generate now (.record r) options).run d =
        (.ok (KeyText.sanitize (author ++ year)), d) := by
  have hkey : KeyText.sanitize (author ++ year) ≠ [] := (KeyText.legal_sanitize _).ne_nil
  have hdefault := (attempt_default now (.record r)).trans (ofTemplate_default h hyear hlong)
  have hfallback : attempt now (.record r) options =
      pure (KeyText.sanitize (author ++ year)) := by
    rw [attempt_blank hblank, ofAuthorYear_of_year now h hyear hne]
    rfl
  exact ⟨generate_of_attempt hdefault hkey d, generate_of_attempt hfallback hkey d⟩

def dotless : Record :=
  Record.ofFields [("year", .text "2021".toList),
    ("author", .list [.record (Record.ofFields [("family", .text "Yıldız".toList)])])]

def blankTemplate : Record := Record.ofFields [("citekey_template", .text [' '])]

theorem leavesBlank_blankTemplate : LeavesBlank (Options.ofValue (.record blankTemplate)) :=
  leavesBlank_ofValue rfl rfl (by decide)

theorem generate_default_eq_blank_dotless :
    (generate ⟨2025, 1, 2, by decide⟩ (.record dotless) (Options.ofValue .null)).run ⟨0⟩ =
        (.ok "yldz2021".toList, ⟨0⟩) ∧
      (generate ⟨2025, 1, 2, by decide⟩ (.record dotless)
        (Options.ofValue (.record blankTemplate))).run ⟨0⟩ = (.ok "yldz2021".toList, ⟨0⟩) := by
  have hauthor : Author.part (.record dotless) = .ok "yıldız".toList := by decide +kernel
  have hyear : Year.part (.record dotless) = .ok "2021".toList := by decide +kernel
  have hkey : KeyText.sanitize ("yıldız".toList ++ "2021".toList) = "yldz2021".toList := by
    decide +kernel
  have hlong : 6 ≤ (KeyText.sanitize ("yıldız".toList ++ "2021".toList)).length := by
    rw [hkey]
    decide
  have h := generate_default_eq_blank hauthor hyear (by decide) hlong leavesBlank_blankTemplate
    ⟨2025, 1, 2, by decide⟩ ⟨0⟩
  rw [hkey] at h
  exact h

end LitNote.Key
