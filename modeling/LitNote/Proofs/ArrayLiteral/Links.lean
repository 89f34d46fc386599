import LitNote.Proofs.ArrayLiteral.Items

/-!
The repair of lists of links with a comma after each.  Main statement: they become a list of strings
if there is no comma within them.
-/

namespace LitNote.ArrayLiteral

def commaed (ls : List Text) : Text := ls.flatMap (· ++ [','])

theorem commaed_cons (l : Text) (ls : List Text) : commaed (l :: ls) = l ++ ',' :: commaed ls := by
  simp [commaed]

theorem isPlainText_commaed {ls : List Text} (h : ∀ l ∈ ls, Json.IsPlainText l) :
    Json.IsPlainText (commaed ls) := by
  intro c hc
  obtain ⟨l, hl, hcl⟩ := List.mem_flatMap.mp hc
  obtain hcl | hcl := List.mem_append.mp hcl
  · exact h l hl c hcl
  · cases List.mem_singleton.mp hcl
    decide

structure IsPlainLink (l : Text) : Prop where
  brackets : ∃ content, l = '[' :: '[' :: (content ++ [']', ']'])
  plain : Json.IsPlainText l
  bar : '|' ∈ l

namespace IsPlainLink

variable {l : Text}

theorem head?_eq (h : IsPlainLink l) : l.head? = some '[' := by
  obtain ⟨content, rfl⟩ := h.brackets
  rfl

theorem exists_item (h : IsPlainLink l) (hcomma : ',' ∉ l) :
    ∃ i : Item, i.IsWellFormed ∧ i.spelling = l ∧ i.text = l := by
  obtain ⟨content, rfl⟩ := h.brackets
  have hmem {c : Char} (hc : c ∈ content) : c ∈ '[' :: '[' :: (content ++ [']', ']']) := by
    simp [hc]
  refine ⟨.link content, ⟨fun c hc => (h.plain c (hmem hc)).2, ?_, ?_⟩, rfl, rfl⟩
  · rw [quoteCount_of_not_mem fun hc => h.plain.noQuote (hmem hc)]
  · exact guarded_of_not_mem fun hc => hcomma (hmem hc)

end IsPlainLink

section
variable {ls : List Text}

theorem head?_commaed (hne : ls ≠ []) (h : ∀ l ∈ ls, IsPlainLink l) :
    (commaed ls).head? = some '[' := by
  obtain ⟨l, ls, rfl⟩ := List.exists_cons_of_ne_nil hne
  rw [commaed_cons, List.head?_append, (h l (List.mem_cons_self ..)).head?_eq]
  rfl

theorem spells_commaed (h : ∀ l ∈ ls, IsPlainLink l) (hcomma : ∀ l ∈ ls, ',' ∉ l) :
    ∃ is : List Item, (∀ i ∈ is, i.IsWellFormed) ∧ is.map Item.text = ls ∧
      Spells is (commaed ls) := by
  induction ls with
  | nil => exact ⟨[], fun i hi => absurd hi List.not_mem_nil, rfl, .blank Text.blank_nil⟩
  | cons l ls ih =>
    obtain ⟨i, hi, hspelling, htext⟩ :=
      (h l (List.mem_cons_self ..)).exists_item (hcomma l (List.mem_cons_self ..))
    obtain ⟨is, his, htexts, hspells⟩ := ih (fun l' hl' => h l' (List.mem_cons_of_mem l hl'))
      fun l' hl' => hcomma l' (List.mem_cons_of_mem l hl')
    refine ⟨i :: is, List.forall_mem_cons.mpr ⟨hi, his⟩, by rw [List.map_cons, htext, htexts], ?_⟩
    rw [commaed_cons, ← hspelling]
    exact .item (.refl _) hspells

theorem repair_commaed (h : ∀ l ∈ ls, IsPlainLink l) (hcomma : ∀ l ∈ ls, ',' ∉ l) :
    repair (bracketed (commaed ls)) = literalOf (ls.map Json.writeText) := by
  obtain ⟨is, his, htexts, hspells⟩ := spells_commaed h hcomma
  rw [hspells.repair_eq his, asTexts, htexts]

theorem normalize_commaed {t : Text} (h : ∀ l ∈ ls, IsPlainLink l)
    (ht : normalize (bracketed (commaed ls)) = .ok t) : t = repair (bracketed (commaed ls)) := by
  by_cases hne : ls = []
  · subst hne
    cases ht
    rfl
  · have hfilter := filter_ne_nil (head?_commaed hne h) (by decide)
    have hplain := isPlainText_bracketed (isPlainText_commaed fun l hl => (h l hl).plain)
    have hbar : '|' ∈ bracketed (commaed ls) := by
      obtain ⟨l, ls, rfl⟩ := List.exists_cons_of_ne_nil hne
      simp [bracketed, commaed_cons, (h l (List.mem_cons_self ..)).bar]
    cases hread : Json.read (bracketed (commaed ls)) with
    | ok v => exact absurd hbar (Json.not_mem_of_read hplain.noQuote hread)
    | error f =>
      rw [normalize_of_error hfilter hread] at ht
      split at ht
      · cases ht
      · cases ht
        rfl

def HasBar (l : Text) : Prop := ∃ a b, l = a ++ '|' :: b ∧ a.count '[' + 1 < Json.maxDepth

theorem exists_normalize_commaed (h : ∀ l ∈ ls, IsPlainLink l) (hbar : ∀ l ∈ ls, HasBar l) :
    ∃ t, normalize (bracketed (commaed ls)) = .ok t := by
  by_cases hne : ls = []
  · subst hne
    exact ⟨_, normalize_of_blank rfl⟩
  · have hfilter := filter_ne_nil (head?_commaed hne h) (by decide)
    have hplain := isPlainText_bracketed (isPlainText_commaed fun l hl => (h l hl).plain)
    obtain ⟨l, ls, rfl⟩ := List.exists_cons_of_ne_nil hne
    obtain ⟨a, b, rfl, hcount⟩ := hbar l (List.mem_cons_self ..)
    have happ : bracketed (commaed ((a ++ '|' :: b) :: ls)) =
        ('[' :: a) ++ '|' :: (b ++ ',' :: (commaed ls ++ [']'])) := by
      simp [bracketed, commaed_cons]
    rw [happ] at hplain
    obtain ⟨f, hf, hcause⟩ := Json.read_of_bar hplain.noQuote (by rwa [List.count_cons_self])
    rw [← happ] at hf
    exact ⟨_, by rw [normalize_of_error hfilter hf, if_neg hcause]⟩

end

end LitNote.ArrayLiteral
