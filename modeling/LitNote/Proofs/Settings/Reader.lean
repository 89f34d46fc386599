import LitNote.Proofs.Failure
import LitNote.Proofs.Value.Equality
import LitNote.Settings.Reader

/-!
Settings that have been read: every custom field names its place, which is the start, the end or
after a standard field.
-/

namespace LitNote.Settings

def IsAnchor (names : List Value) (anchor : Value) : Prop :=
  anchor = startAnchor ∨ anchor = endAnchor ∨ ∃ name ∈ names, name.sameKey anchor = true

theorem isAnchor_of_check {names : List Value} {name anchor : Value}
    (h : checkAnchor names name anchor = .ok ()) : IsAnchor names anchor := by
  by_cases hends : (anchor == startAnchor || anchor == endAnchor) = true
  · rw [Bool.or_eq_true, beq_iff_eq, beq_iff_eq] at hends
    exact hends.imp_right .inl
  · rw [checkAnchor, if_neg hends] at h
    cases hsought : mayBeSought anchor with
    | false =>
      rw [hsought] at h
      cases h
    | true =>
      rw [hsought, Bool.not_true, if_neg Bool.false_ne_true] at h
      by_cases hany : names.any (·.sameKey anchor) = true
      · obtain ⟨s, hs, hsame⟩ := List.any_eq_true.mp hany
        exact .inr (.inr ⟨s, hs, hsame⟩)
      · dsimp only at h
        rw [if_neg hany] at h
        obtain ⟨t, -, h⟩ := Failure.bind_eq_ok_iff.mp h
        cases h

theorem isAnchor_of_checkCustom {names : List Value} {f : CustomField}
    (h : checkCustom names f = .ok ()) : IsAnchor names f.after := by
  rw [checkCustom] at h
  obtain ⟨blank, -, h⟩ := Failure.bind_eq_ok_iff.mp h
  cases blank with
  | true => cases h
  | false => exact isAnchor_of_check h

theorem checked_of_ofValue {v : Value} {settings : Settings} (h : ofValue v = .ok settings) :
    listSetting v "custom_frontmatter_fields" readCustom defaultCustom = .ok settings.custom ∧
      checkLength settings.key.minLength = .ok () ∧
      settings.custom.forM (checkCustom (settings.standard.map StandardField.name)) = .ok () := by
  rw [ofValue] at h
  obtain ⟨fileName, -, h⟩ := Failure.bind_eq_ok_iff.mp h
  obtain ⟨header, -, h⟩ := Failure.bind_eq_ok_iff.mp h
  obtain ⟨chapterHeader, -, h⟩ := Failure.bind_eq_ok_iff.mp h
  obtain ⟨tag, -, h⟩ := Failure.bind_eq_ok_iff.mp h
  obtain ⟨key, -, h⟩ := Failure.bind_eq_ok_iff.mp h
  obtain ⟨standard, -, h⟩ := Failure.bind_eq_ok_iff.mp h
  obtain ⟨custom, hcustom, h⟩ := Failure.bind_eq_ok_iff.mp h
  obtain ⟨_, hlength, h⟩ := Failure.bind_eq_ok_iff.mp h
  obtain ⟨_, -, h⟩ := Failure.bind_eq_ok_iff.mp h
  obtain ⟨_, hchecks, h⟩ := Failure.bind_eq_ok_iff.mp h
  cases h
  exact ⟨hcustom, hlength, hchecks⟩

theorem isAnchor_of_ofValue {v : Value} {settings : Settings} (h : ofValue v = .ok settings)
    {f : CustomField} (hf : f ∈ settings.custom) :
    IsAnchor (settings.standard.map StandardField.name) f.after :=
  isAnchor_of_checkCustom (Failure.of_mem_forM (checked_of_ofValue h).2.2 hf)

theorem isSet_orElse {v other : Value} (h : other.isSet = true) :
    (v.orElse other).isSet = true := by
  rw [Value.orElse]
  split
  · assumption
  · exact h

theorem isSet_after_of_readCustom {v : Value} {f : CustomField} (h : readCustom v = .ok f) :
    f.after.isSet = true := by
  rw [readCustom] at h
  obtain ⟨r, -, h⟩ := Failure.bind_eq_ok_iff.mp h
  obtain ⟨template, -, h⟩ := Failure.bind_eq_ok_iff.mp h
  cases h
  exact isSet_orElse rfl

theorem isSet_after_of_mem_default {f : CustomField} (h : f ∈ defaultCustom) :
    f.after.isSet = true := by
  simp only [defaultCustom, List.mem_cons, List.not_mem_nil, or_false] at h
  obtain rfl | rfl | rfl | rfl | rfl | rfl | rfl := h <;> rfl

theorem anchor_of_ofValue {v : Value} {settings : Settings} (h : ofValue v = .ok settings)
    {f : CustomField} (hf : f ∈ settings.custom) : f.anchor = f.after := by
  have hcustom := (checked_of_ofValue h).1
  have hset : f.after.isSet = true := by
    rw [listSetting] at hcustom
    obtain ⟨given, -, hcustom⟩ := Failure.bind_eq_ok_iff.mp hcustom
    cases given with
    | none =>
      rw [← Except.ok.inj hcustom] at hf
      exact isSet_after_of_mem_default hf
    | some items =>
      obtain ⟨elements, -, hcustom⟩ := Failure.bind_eq_ok_iff.mp hcustom
      obtain ⟨element, -, hread⟩ := Failure.of_mem_mapM hcustom hf
      exact isSet_after_of_readCustom hread
  rw [CustomField.anchor, Value.orElse, if_pos hset]

end LitNote.Settings
