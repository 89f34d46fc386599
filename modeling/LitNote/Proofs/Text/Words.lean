import LitNote.Proofs.Text.Spacing

/-!
Words of a text, and its collapsed form: the words with one space between them.  Main statements: a
flat text is its own collapsed form, and to squeeze and trim a text is to collapse it.
-/

namespace LitNote.Text

def words (s : Text) : List Text := (s.splitOnP isBlank).filter (!·.isEmpty)

def collapsed (s : Text) : Text := join [' '] (words s)

theorem words_append_cons {c : Char} (hc : isBlank c = true) (s t : Text) :
    words (s ++ c :: t) = words s ++ words t := by
  unfold words
  rw [List.splitOnP_append_cons s t hc, List.filter_append]

theorem words_cons {c : Char} (hc : isBlank c = true) (s : Text) : words (c :: s) = words s :=
  words_append_cons hc [] s

theorem words_of_noBlank {s : Text} (hne : s ≠ []) (h : ∀ c ∈ s, isBlank c = false) :
    words s = [s] := by
  unfold words
  rw [List.splitOnP_eq_singleton h]
  simp [hne]

theorem words_append_start {a : Text} (ha : Blank a) (s : Text) : words (a ++ s) = words s := by
  induction a with
  | nil => rfl
  | cons c a ih =>
    rw [List.cons_append, words_cons (ha c (List.mem_cons_self ..))]
    exact ih fun d hd => ha d (List.mem_cons_of_mem c hd)

theorem words_append_end (s : Text) {b : Text} (hb : Blank b) : words (s ++ b) = words s := by
  cases b with
  | nil => rw [List.append_nil]
  | cons c b =>
    have hc : isBlank c = true := hb c (List.mem_cons_self ..)
    have hnone : words (c :: b ++ []) = [] := words_append_start hb []
    rw [List.append_nil, words_cons hc] at hnone
    rw [words_append_cons hc, hnone, List.append_nil]

theorem words_trim (s : Text) : words (trim s) = words s := by
  obtain ⟨a, b, ha, hb, hs⟩ := padded_trim s
  conv_rhs => rw [hs, words_append_end _ hb, words_append_start ha]

/-- The text before is what makes the induction go through: a word may have begun there. -/
theorem words_append_squeezed (a s : Text) : words (a ++ squeezed s) = words (a ++ s) := by
  induction s generalizing a with
  | nil => rfl
  | cons c s ih =>
    cases hc : isBlank c with
    | false =>
      rw [squeezed_cons_of_not_blank hc]
      calc words (a ++ c :: squeezed s) = words (a ++ [c] ++ squeezed s) :=
            congrArg words (List.append_cons a c _)
        _ = words (a ++ [c] ++ s) := ih _
        _ = words (a ++ c :: s) := congrArg words (List.append_cons a c s).symm
    | true =>
      rw [squeezed_cons_of_blank hc, words_append_cons hc]
      split
      · next hnext =>
        -- This blank is dropped, but the next one separates the same words.
        obtain ⟨d, hd, hblank⟩ := (Option.any_eq_true _ _).mp hnext
        obtain ⟨s, rfl⟩ := List.head?_eq_some_iff.mp hd
        rw [ih, words_append_cons hblank, words_cons hblank]
      · rw [words_append_cons (by decide)]
        exact congrArg (words a ++ ·) (ih [])

structure IsFlat (s : Text) : Prop where
  spaced : IsSpaced s
  first : ∀ c ∈ s.head?, isBlank c = false
  last : ∀ c ∈ s.getLast?, isBlank c = false

theorem isFlat_trim {s : Text} (h : IsSpaced s) : IsFlat (trim s) := by
  have htrim := trim_trim s
  refine ⟨h.of_isInfix (trim_isInfix s), fun c hc => ?_, fun c hc => ?_⟩
  · obtain ⟨t, ht⟩ := List.head?_eq_some_iff.mp hc
    rw [ht] at htrim
    exact head_of_trim_eq htrim
  · obtain ⟨t, ht⟩ := List.getLast?_eq_some_iff.mp hc
    rw [ht] at htrim
    exact last_of_trim_eq htrim

/-- A flat text may be cut anywhere if the cut is marked, also behind a space. -/
theorem IsFlat.cut {s t : Text} (h : IsFlat s) (ht : t <+: s) {c : Char}
    (hc : isBlank c = false) : IsFlat (t ++ [c]) := by
  have hspace : c ≠ ' ' := by
    rintro rfl
    cases hc
  refine ⟨isSpaced_append.mpr ⟨h.spaced.of_isInfix ht.isInfix, ?_, ?_⟩, ?_, ?_⟩
  · exact (isSpaced_cons hc).mpr .nil
  · rintro ⟨-, hmeet⟩
    exact hspace (Option.some.inj hmeet)
  · obtain ⟨rest, rfl⟩ := ht
    cases t with
    | nil => simpa using hc
    | cons d t => simpa using h.first
  · simpa using hc

theorem collapsed_of_noBlank {s : Text} (h : ∀ c ∈ s, isBlank c = false) : collapsed s = s := by
  by_cases hne : s = []
  · rw [hne]
    rfl
  · rw [collapsed, words_of_noBlank hne h]
    exact List.intercalate_singleton

theorem collapsed_append_space {a s : Text} (hne : a ≠ []) (ha : ∀ c ∈ a, isBlank c = false)
    (hwords : words s ≠ []) : collapsed (a ++ ' ' :: s) = a ++ ' ' :: collapsed s := by
  rw [collapsed, words_append_cons (by decide), words_of_noBlank hne ha, List.singleton_append,
    join_cons _ _ hwords]
  rfl

theorem collapsed_append {a s : Text} (ha : ∀ c ∈ a, isBlank c = false) (hs : IsSpaced s)
    (hlast : ∀ c ∈ s.getLast?, isBlank c = false) (hmeet : a = [] → s.head? ≠ some ' ') :
    collapsed (a ++ s) = a ++ s := by
  induction s generalizing a with
  | nil =>
    rw [List.append_nil]
    exact collapsed_of_noBlank ha
  | cons c s ih =>
    have hend : ∀ d ∈ s.getLast?, isBlank d = false := by
      intro d hd
      refine hlast d ?_
      rw [List.getLast?_cons, Option.mem_def.mp hd]
      rfl
    cases hc : isBlank c with
    | false =>
      have hmore : ∀ d ∈ a ++ [c], isBlank d = false :=
        List.forall_mem_append.mpr ⟨ha, List.forall_mem_singleton.mpr hc⟩
      have ih := ih hmore ((isSpaced_cons hc).mp hs) hend (by simp)
      rwa [List.append_assoc] at ih
    | true =>
      obtain rfl : c = ' ' := hs.space c (List.mem_cons_self ..) hc
      obtain ⟨hrest, hhead⟩ := isSpaced_cons_space.mp hs
      have hne : a ≠ [] := fun hnil => hmeet hnil rfl
      have ih : collapsed s = s := ih (List.forall_mem_nil _) hrest hend fun _ => hhead
      -- No blank ends the text, hence a word follows the space.
      have hwords : words s ≠ [] := by
        intro hnil
        rw [collapsed, hnil] at ih
        rw [← ih] at hlast
        cases hlast ' ' rfl
      rw [collapsed_append_space hne ha hwords, ih]

theorem IsFlat.collapsed_eq {s : Text} (h : IsFlat s) : collapsed s = s := by
  refine collapsed_append (List.forall_mem_nil _) h.spaced h.last fun _ hspace => ?_
  cases h.first ' ' hspace

theorem trim_squeezed (s : Text) : trim (squeezed s) = collapsed s := by
  have hwords : words (trim (squeezed s)) = words s := by
    rw [words_trim]
    exact words_append_squeezed [] s
  have hflat : IsFlat (trim (squeezed s)) := isFlat_trim (isSpaced_squeezed s)
  calc trim (squeezed s) = collapsed (trim (squeezed s)) := hflat.collapsed_eq.symm
    _ = collapsed s := congrArg (join [' ']) hwords

end LitNote.Text
