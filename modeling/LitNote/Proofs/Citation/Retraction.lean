import LitNote.Proofs.ArrayLiteral
import LitNote.Proofs.Citation.KeyText
import LitNote.Template.Render

/-!
Sanitizing as a retraction.  Main statement: it leaves just the keys of the grammar as they are,
what comes out is one of them and made of the characters that went in, and the repair of array
literals finds nothing to do in it.
-/

namespace LitNote.KeyText

variable {s : Text}

structure InGrammar (s : Text) : Prop where
  first : ∃ c, s.head? = some c ∧ isStart c = true
  last : ∃ c, s.getLast? = some c ∧ isStart c = true
  inner : ∀ c ∈ s, isInner c = true

theorem legal_iff_inGrammar : Legal s ↔ InGrammar s := by
  constructor
  · intro h
    obtain ⟨c, t, hct, hc, -⟩ := h.exists_cons
    obtain ⟨m, d, hmd, -, hd⟩ := h.exists_concat
    refine ⟨⟨c, ?_, hc⟩, ⟨d, ?_, hd⟩, h.isInner⟩
    · rw [hct, List.head?_cons]
    · rw [hmd, List.getLast?_concat]
  · rintro ⟨⟨c, hhead, hc⟩, ⟨d, hlast, hd⟩, hinner⟩
    obtain ⟨t, rfl⟩ := List.head?_eq_some_iff.mp hhead
    by_cases ht : t = []
    · rw [ht]
      exact .single hc
    · rw [List.getLast?_cons_of_ne_nil ht] at hlast
      obtain ⟨m, rfl⟩ := List.getLast?_eq_some_iff.mp hlast
      have hm : ∀ x ∈ m, isInner x = true := fun x hx =>
        hinner x (List.mem_cons_of_mem c (List.mem_append_left [d] hx))
      exact .ends hc hm hd

theorem sanitize_sublist (s : Text) : (sanitize s).Sublist ('_' :: s) := by
  have hcut (t : Text) : ((t.filter isInner).reverse.dropWhile isMark).reverse.Sublist t := by
    have hmarks := (List.dropWhile_sublist isMark (l := (t.filter isInner).reverse)).reverse
    rw [List.reverse_reverse] at hmarks
    exact hmarks.trans List.filter_sublist
  rw [sanitize]
  cases startsWell s with
  | true => exact (hcut s).trans (List.sublist_cons_self '_' s)
  | false => exact hcut ('_' :: s)

theorem normalize_of_legal (h : Legal s) : ArrayLiteral.normalize s = .ok s := by
  obtain ⟨⟨c, hhead, hc⟩, ⟨d, hlast, hd⟩, -⟩ := legal_iff_inGrammar.mp h
  have htrim : Text.trim s = s :=
    Text.trim_of_ends hhead (Text.isBlank_of_isAsciiWordChar hc) hlast
      (Text.isBlank_of_isAsciiWordChar hd)
  have hbracket : c ≠ '[' := by
    rintro rfl
    cases hc
  rw [← htrim] at hhead
  exact ArrayLiteral.normalize_of_head hhead (Text.isBlank_of_isAsciiWordChar hc) hbracket

theorem finish_sanitized (template s : Text) :
    Template.finish ⟨true, true⟩ template s = Template.finish ⟨true, false⟩ template s := by
  have hnormal := normalize_of_legal (legal_sanitize s)
  simp only [Template.finish, if_true, Bool.true_and, Bool.false_and, hnormal, ite_self]

/-- Sanitizing takes every text to the grammar and moves nothing within it; so what is sanitized is
the same with the repair of arrays as without it. -/
theorem sanitize_retraction :
    (∀ s, InGrammar (sanitize s) ∧ (sanitize s = s ↔ InGrammar s) ∧
      (sanitize s).Sublist ('_' :: s) ∧ sanitize (sanitize s) = sanitize s) ∧
    ∀ template vars, Template.renderAs ⟨true, true⟩ template vars =
      Template.renderAs ⟨true, false⟩ template vars := by
  constructor
  · intro s
    have hlegal := legal_sanitize s
    exact ⟨legal_iff_inGrammar.mp hlegal, legal_iff.symm.trans legal_iff_inGrammar,
      sanitize_sublist s, sanitize_of_legal hlegal⟩
  · intro template vars
    have hfinish : Template.finish ⟨true, true⟩ template = Template.finish ⟨true, false⟩ template :=
      funext (finish_sanitized template)
    rw [Template.renderAs, Template.renderAs, hfinish]

end LitNote.KeyText
