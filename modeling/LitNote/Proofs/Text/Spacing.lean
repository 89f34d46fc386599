import LitNote.Proofs.Text.Padding
import LitNote.Proofs.Text.Parts
import Mathlib.Data.List.Chain

/-!
Texts of one line: no blank but the space, and no two spaces together.  Main statement: a text with
every run of blanks made one space is such a text.
-/

namespace LitNote.Text

structure IsSpaced (s : Text) : Prop where
  space : ∀ c ∈ s, isBlank c = true → c = ' '
  single : s.IsChain fun c d => ¬(c = ' ' ∧ d = ' ')

namespace IsSpaced

theorem nil : IsSpaced [] := ⟨fun _ h => absurd h List.not_mem_nil, .nil⟩

theorem of_isInfix {s t : Text} (h : IsSpaced t) (hs : s <:+: t) : IsSpaced s :=
  ⟨fun c hc => h.space c (hs.mem hc), h.single.infix hs⟩

end IsSpaced

theorem isSpaced_append {s t : Text} : IsSpaced (s ++ t) ↔
    IsSpaced s ∧ IsSpaced t ∧ ¬(s.getLast? = some ' ' ∧ t.head? = some ' ') := by
  constructor
  · intro h
    refine ⟨h.of_isInfix (List.prefix_append s t).isInfix,
      h.of_isInfix (List.suffix_append s t).isInfix, ?_⟩
    rintro ⟨hlast, hhead⟩
    exact (List.isChain_append.mp h.single).2.2 ' ' hlast ' ' hhead ⟨rfl, rfl⟩
  · rintro ⟨hs, ht, hmeet⟩
    refine ⟨?_, List.isChain_append.mpr ⟨hs.single, ht.single, ?_⟩⟩
    · intro c hc
      obtain hc | hc := List.mem_append.mp hc
      · exact hs.space c hc
      · exact ht.space c hc
    · rintro c hlast d hhead ⟨rfl, rfl⟩
      exact hmeet ⟨hlast, hhead⟩

theorem isSpaced_space : IsSpaced [' '] :=
  ⟨fun _ hc _ => List.mem_singleton.mp hc, .singleton _⟩

theorem isSpaced_cons_space {s : Text} :
    IsSpaced (' ' :: s) ↔ IsSpaced s ∧ s.head? ≠ some ' ' := by
  have happ := isSpaced_append (s := [' ']) (t := s)
  simpa [isSpaced_space] using happ

theorem isSpaced_cons {c : Char} (hc : isBlank c = false) {s : Text} :
    IsSpaced (c :: s) ↔ IsSpaced s := by
  have hone : IsSpaced [c] := by
    refine ⟨fun d hd hblank => ?_, .singleton c⟩
    rw [List.mem_singleton.mp hd, hc] at hblank
    cases hblank
  have hne : c ≠ ' ' := by
    rintro rfl
    cases hc
  have happ := isSpaced_append (s := [c]) (t := s)
  simpa [hone, hne] using happ

theorem isSpaced_of_noBlank {s : Text} (h : s.all (!isBlank ·) = true) : IsSpaced s := by
  induction s with
  | nil => exact .nil
  | cons c s ih =>
    rw [List.all_cons, Bool.and_eq_true, Bool.not_eq_true'] at h
    exact (isSpaced_cons h.1).mpr (ih h.2)

def squeezed (s : Text) : Text := join [' '] (splitRuns isBlank s)

theorem squeezed_cons_of_not_blank {c : Char} (hc : isBlank c = false) (s : Text) :
    squeezed (c :: s) = c :: squeezed s := by
  obtain ⟨piece, pieces, heq⟩ := List.exists_cons_of_ne_nil (splitRuns_ne_nil isBlank s)
  rw [squeezed, squeezed, splitRuns_cons_of_not_sep hc, heq, List.modifyHead_cons]
  exact join_append_cons [' '] [c] piece pieces

theorem squeezed_cons_of_blank {c : Char} (hc : isBlank c = true) (s : Text) :
    squeezed (c :: s) = if s.head?.any isBlank then squeezed s else ' ' :: squeezed s := by
  rw [squeezed, squeezed, splitRuns_cons_of_sep hc]
  split
  · rfl
  · exact join_cons [' '] [] (splitRuns_ne_nil isBlank s)

theorem head?_squeezed {s : Text} (h : ¬s.head?.any isBlank = true) :
    (squeezed s).head? = s.head? := by
  cases s with
  | nil => rfl
  | cons c s =>
    rw [squeezed_cons_of_not_blank (Bool.eq_false_iff.mpr h)]
    rfl

theorem isSpaced_squeezed (s : Text) : IsSpaced (squeezed s) := by
  induction s with
  | nil => exact .nil
  | cons c s ih =>
    cases hc : isBlank c with
    | false =>
      rw [squeezed_cons_of_not_blank hc]
      exact (isSpaced_cons hc).mpr ih
    | true =>
      -- A run becomes a space at its last blank, after which the text goes on with no blank.
      rw [squeezed_cons_of_blank hc]
      split
      · exact ih
      · next hnext =>
        refine isSpaced_cons_space.mpr ⟨ih, ?_⟩
        rw [head?_squeezed hnext]
        intro hspace
        rw [hspace] at hnext
        exact hnext rfl

end LitNote.Text
