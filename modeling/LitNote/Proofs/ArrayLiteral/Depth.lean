import LitNote.Proofs.ArrayLiteral
import LitNote.Proofs.Json.Depth

/-!
Array literals that nest too deep.  Main statement: they are the texts that the repair fails on, and
there are none with no more opening brackets and braces than `Json.maxDepth`.
-/

namespace LitNote.ArrayLiteral

variable {s : Text}

/-- A text in brackets, blanks around it aside, in which JSON nests deeper than is read. -/
def IsDeep (s : Text) : Prop :=
  isTemplate (Text.trim s) = true ∧ Json.TooDeep (Json.read (Text.trim s))

theorem isJson_eq_error_iff {e : Failure} :
    isJson s = .error e ↔ e = .tooDeep ∧ Json.TooDeep (Json.read s) := by
  rw [isJson]
  constructor
  · intro h
    split at h
    · cases h
    · next f hf =>
      split at h
      · next hcause =>
        cases h
        exact ⟨rfl, f, hf, hcause⟩
      · cases h
  · rintro ⟨rfl, f, hf, hcause⟩
    rw [hf]
    exact if_pos hcause

theorem not_tooDeep_of_filter (h : s.filter (!Text.isBlank ·) = empty) (hs : isTemplate s = true) :
    ¬Json.TooDeep (Json.read s) := by
  obtain ⟨content, rfl⟩ := isTemplate_iff.mp hs
  have hblank : Text.Blank content := by
    apply blank_of_filter
    rw [filter_bracketed] at h
    simpa [bracketed, empty] using h
  rintro ⟨f, hf, hcause⟩
  rcases Json.read_of_blank hblank with hlist | ⟨g, hg, hvalue⟩
  · rw [bracketed, hlist] at hf
    cases hf
  · rw [bracketed, hg] at hf
    cases hf
    rw [hvalue] at hcause
    cases hcause

theorem normalize_eq_error_iff {e : Failure} :
    normalize s = .error e ↔ e = .tooDeep ∧ IsDeep s := by
  rw [normalize, IsDeep]
  split
  · next hfilter =>
    constructor
    · intro h
      cases h
    · rintro ⟨-, htemplate, hdeep⟩
      exact absurd hdeep (not_tooDeep_of_filter hfilter htemplate)
  · split
    · next htemplate =>
      rw [Bool.not_eq_true'] at htemplate
      constructor
      · intro h
        cases h
      · rintro ⟨-, h, -⟩
        rw [htemplate] at h
        cases h
    · next htemplate =>
      rw [Bool.not_eq_true', Bool.not_eq_false] at htemplate
      constructor
      · intro h
        rcases Failure.bind_eq_error_iff.mp h with hjson | ⟨b, -, h⟩
        · obtain ⟨he, hdeep⟩ := isJson_eq_error_iff.mp hjson
          exact ⟨he, htemplate, hdeep⟩
        · cases b <;> cases h
      · rintro ⟨rfl, -, hdeep⟩
        have hjson := isJson_eq_error_iff.mpr ⟨rfl, hdeep⟩
        exact Failure.bind_eq_error_iff.mpr (.inl hjson)

theorem exists_normalize_iff : (∃ t, normalize s = .ok t) ↔ ¬IsDeep s := by
  constructor
  · rintro ⟨t, ht⟩ hdeep
    rw [normalize_eq_error_iff.mpr ⟨rfl, hdeep⟩] at ht
    cases ht
  · intro hs
    cases h : normalize s with
    | ok t => exact ⟨t, rfl⟩
    | error e => exact absurd (normalize_eq_error_iff.mp h).2 hs

theorem IsDeep.lt_countP (h : IsDeep s) : Json.maxDepth < s.countP Json.isOpening :=
  (Json.lt_of_tooDeep_read Json.counts_countP trivial h.2).trans_le
    (Text.trim_sublist s).countP_le

def nested (n : Nat) : Text := List.replicate n '[' ++ List.replicate n ']'

theorem nested_succ (n : Nat) : nested (n + 1) = bracketed (nested n) := by
  rw [nested, nested, bracketed, List.replicate_succ, List.replicate_succ', List.cons_append,
    List.append_assoc]

theorem isDeep_nested {n : Nat} (hn : Json.maxDepth < n) : IsDeep (nested n) := by
  have hdeep : Json.TooDeep (Json.read (nested n)) := Json.tooDeep_read_replicate hn _
  cases n with
  | zero => exact absurd hn (Nat.not_lt_zero _)
  | succ n =>
    rw [nested_succ] at hdeep ⊢
    rw [IsDeep, trim_bracketed]
    exact ⟨isTemplate_bracketed _, hdeep⟩

end LitNote.ArrayLiteral
