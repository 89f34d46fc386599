import LitNote.FrontMatter.Preview
import LitNote.Proofs.FrontMatter.Rendered

/-!
The preview of a rendered template beside the value that is stored.  Main statement: the preview
shows this value, unless the text is one of those that it judges by rules of its own.
-/

namespace LitNote.FrontMatter

section
variable {template s : Text} {isArray : Bool} {v : Value}

theorem of_isTemplate (template : Text) (hs : ArrayLiteral.isTemplate (Text.trim s) = true) :
    Preview.of template s = match Json.read (Text.trim s) with
      | .ok items => .ok (.list items)
      | .error f =>
        if f.cause = .tooDeep then .error .tooDeep else .ok (.brokenList (Text.trim s)) := by
  have hne : (Text.trim s).isEmpty = false := by
    cases htrim : Text.trim s with
    | nil => rw [htrim] at hs; cases hs
    | cons c u => rfl
  rw [Preview.of]
  simp only [hne, Bool.and_false, hs, Bool.false_eq_true, if_false, if_true]
  cases Json.read (Text.trim s) with
  | ok items => rfl
  | error f =>
    dsimp only
    split <;> rfl

theorem exists_of_plain (template : Text) (hne : Text.trim s ≠ [])
    (hs : ArrayLiteral.isTemplate (Text.trim s) = false) :
    ∃ p, Preview.of template s = .ok p ∧ p.isList = false ∧
      p.value = .text (if (Text.trim s).head? = some '-' ∧ s.has '\n' = true
        then Text.trim s else s) := by
  rw [Preview.of]
  simp only [List.isEmpty_eq_false_iff.mpr hne, Bool.and_false, hs, Bool.false_eq_true, if_false,
    Bool.and_eq_true, beq_iff_eq]
  split
  · exact ⟨_, rfl, rfl, rfl⟩
  split
  · exact ⟨_, rfl, rfl, rfl⟩
  split
  · exact ⟨_, rfl, rfl, rfl⟩
  · exact ⟨_, rfl, rfl, rfl⟩

theorem of_blank (htemplate : ArrayLiteral.isTemplate template = true)
    (htrim : Text.trim s = []) : Preview.of template s = .ok .emptyList := by
  rw [Preview.of, htemplate, htrim]
  rfl

/-- Rendered text that the preview judges by other rules than those by which it is stored. -/
inductive Misjudged (isArray : Bool) (s : Text) : Prop
  | record {v : Value} : s.head? = some '{' → s.getLast? = some '}' → Json.read s = .ok v →
      Misjudged isArray s
  | repaired {f : Json.Fault} {t : Text} {v : Value} : isArray = true →
      ArrayLiteral.isTemplate s = true → Json.read s = .error f →
      ArrayLiteral.normalize s = .ok t → Json.read t = .ok v → Misjudged isArray s
  | padded : Text.trim s ≠ s → (ArrayLiteral.isTemplate (Text.trim s) = true ∨
      (Text.trim s).head? = some '-' ∧ s.has '\n' = true) → Misjudged isArray s

def Preview.Shows (p : Preview) (v : Value) : Prop :=
  p.value = v ∧ (p.isList = true ↔ ∃ items, v = .list items)

theorem Preview.shows_text {p : Preview} (hvalue : p.value = .text s) (hlist : p.isList = false) :
    p.Shows (.text s) := by
  refine ⟨hvalue, ?_⟩
  rw [hlist]
  simp

theorem Preview.shows_list (items : Value) (h : ∃ vs, items = .list vs) :
    (Preview.list items).Shows items :=
  ⟨rfl, fun _ => h, fun _ => rfl⟩

theorem isTemplate_of_braces (hfirst : s.head? = some '{') : ArrayLiteral.isTemplate s = false := by
  rw [ArrayLiteral.isTemplate, hfirst]
  rfl

theorem value_ne_of_misjudged (h : Misjudged (ArrayLiteral.isTemplate template) s)
    (hstored : storedValue (ArrayLiteral.isTemplate template) s = .ok (some v)) {p : Preview}
    (hp : Preview.of template s = .ok p) : p.value ≠ v := by
  cases h with
  | @record w hfirst hlast hread =>
    have hs := looksStructured_of_braces hfirst hlast
    have htrim := trim_of_looksStructured hs
    rw [storedValue_of_candidate hs (candidate_of_braces _ hfirst hlast), hread] at hstored
    cases hstored
    have hne := Text.trim_ne_nil_iff.mpr (not_blank_of_looksStructured hs)
    obtain ⟨q, hq, -, hvalue⟩ :=
      exists_of_plain template hne (htrim.symm ▸ isTemplate_of_braces hfirst)
    rw [hp] at hq
    cases hq
    obtain ⟨u, rfl⟩ := List.head?_eq_some_iff.mp hfirst
    obtain ⟨es, rfl⟩ := Json.exists_record_of_read hread
    rw [hvalue]
    exact Value.noConfusion
  | @repaired f t w harray hs hread hnormal hrepaired =>
    have hstructured := looksStructured_of_isTemplate hs
    have htrim := trim_of_looksStructured hstructured
    have ht : candidate (ArrayLiteral.isTemplate template) s = .ok t := by
      rw [candidate, if_pos harray, hnormal]
    rw [storedValue_of_candidate hstructured ht, hrepaired] at hstored
    cases hstored
    obtain ⟨items, rfl⟩ := ArrayLiteral.exists_list_of_normalize hs hnormal hrepaired
    rw [of_isTemplate template (htrim.symm ▸ hs), htrim, hread] at hp
    dsimp only at hp
    split at hp
    · cases hp
    · cases hp
      exact Value.noConfusion
  | padded htrim hs =>
    have hplain : looksStructured s = false := by
      cases h : looksStructured s with
      | false => rfl
      | true => exact absurd (trim_of_looksStructured h) htrim
    have hne : Text.trim s ≠ [] := by
      intro h
      rw [h] at hs
      obtain hs | ⟨hs, -⟩ := hs <;> cases hs
    rw [storedValue_of_plain _ (Text.trim_ne_nil_iff.mp hne) hplain] at hstored
    cases hstored
    obtain hs | hdash := hs
    · rw [of_isTemplate template hs] at hp
      split at hp
      · next items hread =>
        cases hp
        obtain ⟨items, rfl⟩ := ArrayLiteral.exists_list_of_read hs hread
        exact Value.noConfusion
      · split at hp
        · cases hp
        · cases hp
          exact fun h => htrim (Value.text.inj h)
    · have hbracket : ArrayLiteral.isTemplate (Text.trim s) = false := by
        rw [ArrayLiteral.isTemplate, hdash.1]
        rfl
      obtain ⟨q, hq, -, hvalue⟩ := exists_of_plain template hne hbracket
      rw [hp] at hq
      cases hq
      rw [hvalue, if_pos hdash]
      exact fun h => htrim (Value.text.inj h)

theorem exists_shows_of_isTemplate (hs : ArrayLiteral.isTemplate s = true)
    (hstored : storedValue (ArrayLiteral.isTemplate template) s = .ok (some v))
    (h : ¬Misjudged (ArrayLiteral.isTemplate template) s) :
    ∃ p, Preview.of template s = .ok p ∧ p.Shows v := by
  have hstructured := looksStructured_of_isTemplate hs
  have htrim := trim_of_looksStructured hstructured
  obtain ⟨t, ht⟩ := exists_candidate hstructured hstored
  rw [storedValue_of_candidate hstructured ht] at hstored
  rw [of_isTemplate template (htrim.symm ▸ hs), htrim]
  rw [candidate] at ht
  cases hread : Json.read s with
  | ok w =>
    have hsame : Json.read t = .ok w := by
      split at ht
      · exact ArrayLiteral.read_of_normalize hs ht hread
      · cases ht
        exact hread
    rw [hsame] at hstored
    cases hstored
    exact ⟨_, rfl, Preview.shows_list _ (ArrayLiteral.exists_list_of_read hs hread)⟩
  | error f =>
    -- What is no JSON is none after the repair either, since it is not misjudged.
    have hcause : f.cause ≠ .tooDeep ∧ v = .text s := by
      split at ht
      · next harray =>
        refine ⟨ArrayLiteral.cause_ne_of_normalize hs ht hread, ?_⟩
        cases hrepaired : Json.read t with
        | ok w => exact absurd (.repaired harray hs hread ht hrepaired) h
        | error g =>
          rw [hrepaired] at hstored
          dsimp only at hstored
          split at hstored
          · cases hstored
          · cases hstored
            rfl
      · cases ht
        rw [hread] at hstored
        dsimp only at hstored
        split at hstored
        · cases hstored
        · next hne =>
          cases hstored
          exact ⟨hne, rfl⟩
    obtain ⟨hcause, rfl⟩ := hcause
    dsimp only
    rw [if_neg hcause]
    exact ⟨_, rfl, Preview.shows_text rfl rfl⟩

theorem eq_text_of_stored (hblank : s.all Text.isBlank = false)
    (hbracket : ArrayLiteral.isTemplate s = false)
    (hstored : storedValue isArray s = .ok (some v)) (h : ¬Misjudged isArray s) : v = .text s := by
  cases hs : looksStructured s with
  | false =>
    rw [storedValue_of_plain _ hblank hs] at hstored
    cases hstored
    rfl
  | true =>
    rw [looksStructured, ← ArrayLiteral.isTemplate, hbracket, Bool.false_or, Bool.and_eq_true,
      beq_iff_eq, beq_iff_eq] at hs
    obtain ⟨hfirst, hlast⟩ := hs
    rw [storedValue_of_candidate (looksStructured_of_braces hfirst hlast)
      (candidate_of_braces isArray hfirst hlast)] at hstored
    cases hread : Json.read s with
    | ok w => exact absurd (.record hfirst hlast hread) h
    | error f =>
      rw [hread] at hstored
      dsimp only at hstored
      split at hstored
      · cases hstored
      · cases hstored
        rfl

theorem exists_shows_text (template : Text) (hblank : s.all Text.isBlank = false)
    (hbracket : ArrayLiteral.isTemplate s = false) (h : ¬Misjudged isArray s) :
    ∃ p, Preview.of template s = .ok p ∧ p.Shows (.text s) := by
  have htrim : ArrayLiteral.isTemplate (Text.trim s) = false := by
    by_cases heq : Text.trim s = s
    · rw [heq, hbracket]
    · exact Bool.eq_false_iff.mpr fun ht => h (.padded heq (.inl ht))
  obtain ⟨p, hp, hlist, hvalue⟩ :=
    exists_of_plain template (Text.trim_ne_nil_iff.mpr hblank) htrim
  refine ⟨p, hp, Preview.shows_text ?_ hlist⟩
  rw [hvalue]
  split
  · next hdash =>
    by_cases heq : Text.trim s = s
    · rw [heq]
    · exact absurd (.padded heq (.inr hdash)) h
  · rfl

theorem exists_shows (hstored : storedValue (ArrayLiteral.isTemplate template) s = .ok (some v))
    (h : ¬Misjudged (ArrayLiteral.isTemplate template) s) :
    ∃ p, Preview.of template s = .ok p ∧ p.Shows v := by
  cases hblank : s.all Text.isBlank with
  | true =>
    rw [storedValue, hblank, if_pos rfl] at hstored
    cases htemplate : ArrayLiteral.isTemplate template with
    | true =>
      rw [htemplate] at hstored
      cases hstored
      have hempty := of_blank htemplate (Text.trim_eq_nil_iff.mpr hblank)
      exact ⟨_, hempty, rfl, fun _ => ⟨[], rfl⟩, fun _ => rfl⟩
    | false =>
      rw [htemplate] at hstored
      cases hstored
  | false =>
    cases hbracket : ArrayLiteral.isTemplate s with
    | true => exact exists_shows_of_isTemplate hbracket hstored h
    | false =>
      cases eq_text_of_stored hblank hbracket hstored h
      exact exists_shows_text template hblank hbracket h

/-- For whatever a field renders to and stores, the preview of the rendered text shows what is
stored, and says whether it is a list, unless the text is misjudged; then it shows another value. -/
theorem preview_of_stored {name vars : Value} {d d₁ d₂ : Draws}
    (hown : takenOver? name template = none)
    (hrender : (Template.renderAs ⟨false, ArrayLiteral.isTemplate template⟩ template vars).run d =
      (.ok s, d₁))
    (hstored : (customValue name template vars).run d = (.ok (some v), d₂)) :
    (¬Misjudged (ArrayLiteral.isTemplate template) s → ∃ p, Preview.of template s = .ok p ∧
      p.text = fieldText v ∧ (p.isList = true ↔ ∃ items, v = .list items)) ∧
    (Misjudged (ArrayLiteral.isTemplate template) s →
      ∀ p, Preview.of template s = .ok p → p.value ≠ v) := by
  obtain ⟨hstored, -⟩ := storedValue_of_run hown hrender hstored
  refine ⟨fun h => ?_, fun h p hp => value_ne_of_misjudged h hstored hp⟩
  obtain ⟨p, hp, hvalue, hlist⟩ := exists_shows hstored h
  exact ⟨p, hp, congrArg fieldText hvalue, hlist⟩

end

def listedNames : Text := "Ada, Bob".toList

def paddedList : Text := " [1]".toList

theorem preview_of_stored_plain :
    (customValue (.text ['f']) listedNames (.record []) = pure (some (.text listedNames)) ∧
      ∃ p, Preview.of listedNames listedNames = .ok p ∧ p.text = fieldText (.text listedNames) ∧
        (p.isList = true ↔ ∃ items, Value.text listedNames = .list items)) ∧
    (customValue (.text ['f']) paddedList (.record []) = pure (some (.text paddedList)) ∧
      ∀ p, Preview.of paddedList paddedList = .ok p → p.value ≠ .text paddedList) := by
  have hnames := customValue_plain (s := listedNames) (by decide) (by decide) (by decide)
    (.text ['f']) []
  have hlist := customValue_plain (s := paddedList) (by decide) (by decide) (by decide)
    (.text ['f']) []
  refine ⟨⟨hnames, ?_⟩, hlist, ?_⟩
  · have hrender := renderAs_plain (s := listedNames) (by decide) (by decide) (by decide) []
    refine (preview_of_stored (takenOver?_of_not_mem (.text ['f']) (by decide))
      (Drawing.run_of_eq_pure hrender ⟨0⟩) (Drawing.run_of_eq_pure hnames ⟨0⟩)).1 ?_
    rintro (⟨hfirst, -, -⟩ | ⟨harray, -, -, -, -⟩ | ⟨htrim, -⟩)
    · cases hfirst
    · cases harray
    · exact htrim (by decide)
  · have hrender := renderAs_plain (s := paddedList) (by decide) (by decide) (by decide) []
    exact (preview_of_stored (takenOver?_of_not_mem (.text ['f']) (by decide))
      (Drawing.run_of_eq_pure hrender ⟨0⟩) (Drawing.run_of_eq_pure hlist ⟨0⟩)).2
      (.padded (by decide) (.inl (by decide)))

theorem preview_padded :
    customValue (.text ['f']) paddedList (.record []) = pure (some (.text paddedList)) ∧
      (∃ p, Preview.of paddedList paddedList = .ok p ∧ p.isList = true ∧
        p.text.toOption = some "---\nfield:\n- 1\n---".toList) ∧
      (fieldText (.text paddedList)).toOption = some "---\nfield: ' [1]'\n---".toList :=
  ⟨customValue_plain (by decide) (by decide) (by decide)
    (.text ['f']) [],
    ⟨.list (.list [.int 1]), rfl, rfl, by decide +kernel⟩, by decide +kernel⟩

end LitNote.FrontMatter
