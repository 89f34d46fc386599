import LitNote.ArrayLiteral
import LitNote.Proofs.Json.Shape

/-!
Array literals: which texts the repair leaves as they are, and what JSON says before and after it.
-/

namespace LitNote.ArrayLiteral

def bracketed (content : Text) : Text := '[' :: (content ++ [']'])

theorem head?_bracketed (content : Text) : (bracketed content).head? = some '[' := rfl

theorem getLast?_bracketed (content : Text) : (bracketed content).getLast? = some ']' := by
  rw [bracketed, ← List.cons_append, List.getLast?_append]
  rfl

theorem isTemplate_bracketed (content : Text) : isTemplate (bracketed content) = true := by
  rw [isTemplate, head?_bracketed, getLast?_bracketed]
  rfl

theorem isTemplate_iff {s : Text} : isTemplate s = true ↔ ∃ content, s = bracketed content := by
  constructor
  · intro h
    rw [isTemplate, Bool.and_eq_true, beq_iff_eq, beq_iff_eq] at h
    obtain ⟨hhead, hlast⟩ := h
    obtain ⟨t, rfl⟩ := List.head?_eq_some_iff.mp hhead
    obtain ⟨u, hu⟩ := List.getLast?_eq_some_iff.mp hlast
    cases u with
    | nil => cases hu
    | cons c u =>
      cases hu
      exact ⟨u, rfl⟩
  · rintro ⟨content, rfl⟩
    exact isTemplate_bracketed content

theorem trim_bracketed (content : Text) : Text.trim (bracketed content) = bracketed content :=
  Text.trim_of_ends (head?_bracketed content) (by decide) (getLast?_bracketed content) (by decide)

theorem filter_bracketed (content : Text) : (bracketed content).filter (!Text.isBlank ·) =
    bracketed (content.filter (!Text.isBlank ·)) := by
  have hopen : (!Text.isBlank '[') = true := by decide
  have hclose : (!Text.isBlank ']') = true := by decide
  simp only [bracketed, List.filter_cons, List.filter_append, List.filter_nil, hopen, hclose,
    if_true]

theorem filter_ne_nil {s : Text} {c : Char} (h : s.head? = some c) (hc : Text.isBlank c = false) :
    s.filter (!Text.isBlank ·) ≠ [] := by
  obtain ⟨t, rfl⟩ := List.head?_eq_some_iff.mp h
  rw [List.filter_cons_of_pos (by rw [hc]; rfl)]
  exact List.cons_ne_nil _ _

theorem filter_bracketed_ne {content : Text} (h : content.filter (!Text.isBlank ·) ≠ []) :
    (bracketed content).filter (!Text.isBlank ·) ≠ empty := by
  rw [filter_bracketed]
  intro heq
  exact h (by simpa [bracketed, empty] using heq)

theorem normalize_of_read {content : Text} {v : Value} (h : Json.read (bracketed content) = .ok v)
    (hne : content.filter (!Text.isBlank ·) ≠ []) :
    normalize (bracketed content) = .ok (bracketed content) := by
  rw [normalize, trim_bracketed, if_neg (filter_bracketed_ne hne), isTemplate_bracketed, isJson, h]
  rfl

theorem normalize_of_head {s : Text} {c : Char} (hhead : (Text.trim s).head? = some c)
    (hblank : Text.isBlank c = false) (hne : c ≠ '[') : normalize s = .ok s := by
  obtain ⟨t, ht⟩ := List.head?_eq_some_iff.mp hhead
  have hfilter : (Text.trim s).filter (!Text.isBlank ·) ≠ empty := by
    rw [ht, List.filter_cons_of_pos (by rw [hblank]; rfl)]
    intro heq
    rw [empty, List.cons.injEq] at heq
    exact hne heq.1
  have htemplate : isTemplate (Text.trim s) = false := by
    rw [isTemplate, hhead, beq_false_of_ne fun heq => hne (Option.some.inj heq), Bool.false_and]
  rw [normalize, if_neg hfilter, htemplate]
  rfl

theorem blank_of_filter {s : Text} (h : s.filter (!Text.isBlank ·) = []) : Text.Blank s := by
  intro c hc
  simpa using List.filter_eq_nil_iff.mp h c hc

theorem normalize_of_blank {content : Text} (h : content.filter (!Text.isBlank ·) = []) :
    normalize (bracketed content) = .ok empty := by
  rw [normalize, trim_bracketed, if_pos (by rw [filter_bracketed, h]; rfl)]
  rfl

theorem normalize_of_error {content : Text} {f : Json.Fault}
    (hne : content.filter (!Text.isBlank ·) ≠ []) (h : Json.read (bracketed content) = .error f) :
    normalize (bracketed content) =
      if f.cause = .tooDeep then .error .tooDeep else .ok (repair (bracketed content)) := by
  rw [normalize, trim_bracketed, if_neg (filter_bracketed_ne hne), isTemplate_bracketed, isJson, h]
  by_cases hf : f.cause = .tooDeep
  · simp [hf]
    rfl
  · simp [hf]
    rfl

theorem exists_repair (literal : Text) : ∃ content, repair literal = '[' :: content := by
  rw [repair]
  split
  · exact ⟨_, rfl⟩
  · exact ⟨_, rfl⟩

theorem exists_normalize {content t : Text} (h : normalize (bracketed content) = .ok t) :
    ∃ u, t = '[' :: u := by
  by_cases hblank : content.filter (!Text.isBlank ·) = []
  · rw [normalize_of_blank hblank] at h
    cases h
    exact ⟨_, rfl⟩
  · cases hread : Json.read (bracketed content) with
    | ok v =>
      rw [normalize_of_read hread hblank] at h
      cases h
      exact ⟨_, rfl⟩
    | error f =>
      rw [normalize_of_error hblank hread] at h
      split at h
      · cases h
      · cases h
        exact exists_repair _

section
variable {s t : Text} {v : Value}

theorem exists_list_of_read (hs : isTemplate s = true) (hread : Json.read s = .ok v) :
    ∃ items, v = .list items := by
  obtain ⟨content, rfl⟩ := isTemplate_iff.mp hs
  exact Json.exists_list_of_read hread

theorem exists_list_of_normalize (hs : isTemplate s = true) (hnormal : normalize s = .ok t)
    (hread : Json.read t = .ok v) : ∃ items, v = .list items := by
  obtain ⟨content, rfl⟩ := isTemplate_iff.mp hs
  obtain ⟨u, rfl⟩ := exists_normalize hnormal
  exact Json.exists_list_of_read hread

theorem read_of_normalize (hs : isTemplate s = true) (hnormal : normalize s = .ok t)
    (hread : Json.read s = .ok v) : Json.read t = .ok v := by
  obtain ⟨content, rfl⟩ := isTemplate_iff.mp hs
  by_cases hblank : content.filter (!Text.isBlank ·) = []
  · rw [normalize_of_blank hblank] at hnormal
    cases hnormal
    obtain hlist | ⟨f, hf, -⟩ := Json.read_of_blank (blank_of_filter hblank)
    · rw [bracketed, hlist] at hread
      cases hread
      rfl
    · rw [bracketed, hf] at hread
      cases hread
  · rw [normalize_of_read hread hblank] at hnormal
    cases hnormal
    exact hread

theorem cause_ne_of_normalize {f : Json.Fault} (hs : isTemplate s = true)
    (hnormal : normalize s = .ok t) (hread : Json.read s = .error f) : f.cause ≠ .tooDeep := by
  obtain ⟨content, rfl⟩ := isTemplate_iff.mp hs
  by_cases hblank : content.filter (!Text.isBlank ·) = []
  · obtain hlist | ⟨g, hg, hcause⟩ := Json.read_of_blank (blank_of_filter hblank)
    · rw [bracketed, hlist] at hread
      cases hread
    · rw [bracketed, hg] at hread
      cases hread
      rw [hcause]
      exact Json.Cause.noConfusion
  · intro hdeep
    rw [normalize_of_error hblank hread, if_pos hdeep] at hnormal
    cases hnormal

end

end LitNote.ArrayLiteral
