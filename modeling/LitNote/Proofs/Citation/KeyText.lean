import LitNote.Citation.KeyText

/-!
Legal keys and sanitizing.  Main statements: what is sanitized is legal, and a legal key stays as it
is.
-/

namespace LitNote.KeyText

inductive Legal : Text → Prop
  | single {c : Char} : isStart c = true → Legal [c]
  | ends {c d : Char} {m : Text} : isStart c = true → (∀ x ∈ m, isInner x = true) →
      isStart d = true → Legal (c :: (m ++ [d]))

theorem isInner_of_isStart {c : Char} (h : isStart c = true) : isInner c = true := by
  rw [isInner, h, Bool.true_or]

theorem isStart_eq_false_of_isMark {c : Char} (h : isMark c = true) : isStart c = false := by
  have hall : [':', '.', '#', '$', '%', '&', '-', '+', '?', '<', '>', '~', '/'].all
      (isStart · == false) = true := by
    decide
  exact beq_iff_eq.mp (List.all_eq_true.mp hall c (List.contains_iff_mem.mp h))

theorem isMark_eq_false_of_isStart {c : Char} (h : isStart c = true) : isMark c = false := by
  cases hm : isMark c with
  | false => rfl
  | true => rw [isStart_eq_false_of_isMark hm] at h; cases h

theorem isStart_of_isInner {c : Char} (h : isInner c = true) (hm : isMark c = false) :
    isStart c = true := by
  rwa [isInner, hm, Bool.or_false] at h

namespace Legal

theorem ne_nil {s : Text} (h : Legal s) : s ≠ [] := by
  cases h <;> exact List.cons_ne_nil _ _

theorem exists_cons {s : Text} (h : Legal s) :
    ∃ c m, s = c :: m ∧ isStart c = true ∧ ∀ x ∈ m, isInner x = true := by
  cases h with
  | @single c hc => exact ⟨c, [], rfl, hc, fun x hx => absurd hx List.not_mem_nil⟩
  | @ends c d m hc hm hd =>
    refine ⟨c, m ++ [d], rfl, hc, fun x hx => ?_⟩
    obtain hx | hx := List.mem_append.mp hx
    · exact hm x hx
    · exact List.mem_singleton.mp hx ▸ isInner_of_isStart hd

theorem exists_concat {s : Text} (h : Legal s) :
    ∃ m d, s = m ++ [d] ∧ (∀ x ∈ m, isInner x = true) ∧ isStart d = true := by
  cases h with
  | @single c hc => exact ⟨[], c, rfl, fun x hx => absurd hx List.not_mem_nil, hc⟩
  | @ends c d m hc hm hd =>
    refine ⟨c :: m, d, rfl, fun x hx => ?_, hd⟩
    obtain rfl | hx := List.mem_cons.mp hx
    · exact isInner_of_isStart hc
    · exact hm x hx

theorem isInner {s : Text} (h : Legal s) : ∀ x ∈ s, isInner x = true := by
  obtain ⟨c, m, rfl, hc, hm⟩ := h.exists_cons
  exact List.forall_mem_cons.mpr ⟨isInner_of_isStart hc, hm⟩

theorem append {s t : Text} (hs : Legal s) (ht : Legal t) : Legal (s ++ t) := by
  obtain ⟨c, m, rfl, hc, hm⟩ := hs.exists_cons
  obtain ⟨n, d, rfl, hn, hd⟩ := ht.exists_concat
  rw [List.cons_append, ← List.append_assoc]
  exact .ends hc (fun x hx => (List.mem_append.mp hx).elim (hm x) (hn x)) hd

end Legal

theorem legal_cut {c : Char} (hc : isStart c = true) (t : Text) :
    Legal (((c :: t).filter isInner).reverse.dropWhile isMark).reverse := by
  have hfilter : (c :: t).filter isInner = c :: t.filter isInner :=
    List.filter_cons_of_pos (isInner_of_isStart hc)
  rw [hfilter, List.reverse_cons, List.dropWhile_append]
  cases hcut : (t.filter isInner).reverse.dropWhile isMark with
  | nil =>
    rw [List.isEmpty_nil, if_pos rfl,
      List.dropWhile_cons_of_neg (ne_true_of_eq_false (isMark_eq_false_of_isStart hc))]
    exact .single hc
  | cons d w =>
    have hinner : ∀ x ∈ d :: w, isInner x = true := by
      intro x hx
      rw [← hcut] at hx
      have hx := List.mem_reverse.mp ((List.dropWhile_sublist isMark).mem hx)
      exact (List.mem_filter.mp hx).2
    have hd : isMark d = false := by
      have hhead := List.head?_dropWhile_not isMark (t.filter isInner).reverse
      rw [hcut] at hhead
      exact hhead
    rw [List.isEmpty_cons, if_neg Bool.false_ne_true, List.reverse_append, List.reverse_singleton,
      List.singleton_append, List.reverse_cons]
    exact .ends hc (fun x hx => hinner x (List.mem_cons_of_mem d (List.mem_reverse.mp hx)))
      (isStart_of_isInner (hinner d (List.mem_cons_self ..)) hd)

theorem legal_sanitize (s : Text) : Legal (sanitize s) := by
  rw [sanitize]
  cases hs : startsWell s with
  | true =>
    cases s with
    | nil => cases hs
    | cons c t => exact legal_cut hs t
  | false => exact legal_cut (by decide) s

theorem sanitize_of_legal {s : Text} (h : Legal s) : sanitize s = s := by
  obtain ⟨c, t, hct, hc, -⟩ := h.exists_cons
  obtain ⟨m, d, hmd, -, hd⟩ := h.exists_concat
  have hstart : startsWell s = true := by
    rw [hct]
    exact hc
  have hcut : s.reverse.dropWhile isMark = s.reverse := by
    rw [hmd, List.reverse_append, List.reverse_singleton, List.singleton_append,
      List.dropWhile_cons_of_neg (ne_true_of_eq_false (isMark_eq_false_of_isStart hd))]
  rw [sanitize, if_pos hstart, List.filter_eq_self.mpr h.isInner, hcut, List.reverse_reverse]

theorem legal_iff {s : Text} : Legal s ↔ sanitize s = s := by
  constructor
  · exact sanitize_of_legal
  · intro h
    rw [← h]
    exact legal_sanitize s

end LitNote.KeyText
