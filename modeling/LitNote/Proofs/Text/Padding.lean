import LitNote.Text.Basic
import LitNote.Text.Letter
import Mathlib.Data.List.TakeWhile

/-!
Blanks around a text, and the pieces of a text between separators.  Main statement: blanks around a
text do not change its pieces, once these are trimmed.
-/

namespace LitNote.Text

def Blank (s : Text) : Prop := ∀ c ∈ s, isBlank c = true

instance (s : Text) : Decidable (Blank s) := List.decidableBAll (isBlank · = true) s

theorem Blank.not_mem {s : Text} (h : Blank s) {c : Char} (hc : isBlank c = false) : c ∉ s := by
  intro hmem
  rw [h c hmem] at hc
  cases hc

theorem isBlank_of_isAsciiWordChar {c : Char} (h : isAsciiWordChar c = true) :
    isBlank c = false := by
  simp only [isAsciiWordChar, isAsciiAlphanumeric, isAsciiLetter, isAsciiDigit, Bool.or_eq_true,
    Bool.and_eq_true, decide_eq_true_eq, beq_iff_eq] at h
  rcases h with h | rfl
  · simp only [isBlank, Bool.or_eq_false_iff, Bool.and_eq_false_iff, decide_eq_false_iff_not,
      beq_eq_false_iff_ne]
    omega
  · decide

def Padded (s t : Text) : Prop := ∃ a b, Blank a ∧ Blank b ∧ t = a ++ s ++ b

theorem blank_nil : Blank [] := fun _ h => absurd h List.not_mem_nil

theorem Padded.refl (s : Text) : Padded s s :=
  ⟨[], [], blank_nil, blank_nil, (List.append_nil s).symm⟩

theorem Padded.mem {s t : Text} (h : Padded s t) {c : Char} (hc : c ∈ t) :
    c ∈ s ∨ isBlank c = true := by
  obtain ⟨a, b, ha, hb, rfl⟩ := h
  rw [List.mem_append, List.mem_append] at hc
  obtain (hc | hc) | hc := hc
  · exact .inr (ha c hc)
  · exact .inl hc
  · exact .inr (hb c hc)

theorem Padded.not_mem {s t : Text} (h : Padded s t) {c : Char} (hb : isBlank c = false)
    (hc : c ∉ s) : c ∉ t := by
  intro ht
  obtain hs | hblank := h.mem ht
  · exact hc hs
  · rw [hb] at hblank
    cases hblank

theorem trimStart_append {a : Text} (ha : Blank a) (s : Text) :
    trimStart (a ++ s) = trimStart s := List.dropWhile_append_of_pos ha

theorem trimEnd_append (s : Text) {b : Text} (hb : Blank b) : trimEnd (s ++ b) = trimEnd s := by
  have hb' : ∀ c ∈ b.reverse, isBlank c = true := fun c hc => hb c (List.mem_reverse.mp hc)
  rw [trimEnd, trimEnd, List.reverse_append, List.dropWhile_append_of_pos hb']

theorem trimStart_eq_nil {s : Text} (h : Blank s) : trimStart s = [] := by
  have h' := trimStart_append h []
  rwa [List.append_nil] at h'

theorem trim_padded {s t : Text} (h : Padded s t) : trim t = trim s := by
  obtain ⟨a, b, ha, hb, rfl⟩ := h
  rw [trim, trim, List.append_assoc, trimStart_append ha]
  have happ : trimStart (s ++ b) =
      if (trimStart s).isEmpty then trimStart b else trimStart s ++ b := List.dropWhile_append
  rw [happ]
  split
  · next he =>
    rw [List.isEmpty_iff.mp he, trimStart_eq_nil hb]
  · exact trimEnd_append _ hb

theorem padded_trim (s : Text) : Padded (trim s) s := by
  refine ⟨s.takeWhile isBlank, ((trimStart s).reverse.takeWhile isBlank).reverse, ?_, ?_, ?_⟩
  · exact fun c hc => List.mem_takeWhile_imp hc
  · exact fun c hc => List.mem_takeWhile_imp (List.mem_reverse.mp hc)
  · have hend : trimEnd (trimStart s) ++ ((trimStart s).reverse.takeWhile isBlank).reverse =
        trimStart s := by
      rw [trimEnd, ← List.reverse_append, List.takeWhile_append_dropWhile, List.reverse_reverse]
    rw [List.append_assoc, trim, hend, trimStart, List.takeWhile_append_dropWhile]

theorem blank_of_trim_eq_nil {s : Text} (h : trim s = []) : Blank s := by
  intro c hc
  have hmem := (padded_trim s).mem hc
  rw [h] at hmem
  exact hmem.resolve_left List.not_mem_nil

theorem trim_eq_nil_iff {s : Text} : trim s = [] ↔ s.all isBlank = true := by
  constructor
  · exact fun h => List.all_eq_true.mpr (blank_of_trim_eq_nil h)
  · intro h
    have hpad : Padded [] s := ⟨s, [], List.all_eq_true.mp h, blank_nil, by simp⟩
    exact trim_padded hpad

theorem trim_ne_nil_iff {s : Text} : trim s ≠ [] ↔ s.all isBlank = false := by
  rw [Ne, trim_eq_nil_iff, Bool.not_eq_true]

theorem trim_eq_self {s : Text} (hfirst : ∀ c, s.head? = some c → isBlank c = false)
    (hlast : ∀ c, s.getLast? = some c → isBlank c = false) : trim s = s := by
  have hdrop {t : Text} (h : ∀ c, t.head? = some c → isBlank c = false) :
      t.dropWhile isBlank = t := by
    cases t with
    | nil => rfl
    | cons c t => exact List.dropWhile_cons_of_neg (ne_true_of_eq_false (h c rfl))
  rw [trim, trimEnd, trimStart, hdrop hfirst, hdrop (by rwa [List.head?_reverse]),
    List.reverse_reverse]

theorem trim_of_ends {c d : Char} {s : Text} (hfirst : s.head? = some c) (hc : isBlank c = false)
    (hlast : s.getLast? = some d) (hd : isBlank d = false) : trim s = s := by
  apply trim_eq_self
  · intro x hx
    rw [hfirst] at hx
    cases hx
    exact hc
  · intro x hx
    rw [hlast] at hx
    cases hx
    exact hd

theorem trim_isInfix (s : Text) : trim s <:+: s := by
  obtain ⟨a, b, -, -, hs⟩ := padded_trim s
  exact ⟨a, b, hs.symm⟩

theorem trim_sublist (s : Text) : (trim s).Sublist s := (trim_isInfix s).sublist

theorem trim_trim (s : Text) : trim (trim s) = trim s := (trim_padded (padded_trim s)).symm

theorem length_le_of_trim_eq {s t : Text} (h : trim s = s) (hpad : Padded t s) :
    s.length ≤ t.length := by
  have hlen := (trim_sublist t).length_le
  rwa [← trim_padded hpad, h] at hlen

theorem head_of_trim_eq {c : Char} {s : Text} (h : trim (c :: s) = c :: s) :
    isBlank c = false := by
  refine Bool.eq_false_iff.mpr fun hc => Nat.not_succ_le_self s.length ?_
  exact length_le_of_trim_eq h
    ⟨[c], [], fun d hd => List.mem_singleton.mp hd ▸ hc, blank_nil, by simp⟩

theorem last_of_trim_eq {s : Text} {c : Char} (h : trim (s ++ [c]) = s ++ [c]) :
    isBlank c = false := by
  refine Bool.eq_false_iff.mpr fun hc => Nat.not_succ_le_self s.length ?_
  have hlen := length_le_of_trim_eq h (t := s)
    ⟨[], [c], blank_nil, fun d hd => List.mem_singleton.mp hd ▸ hc, rfl⟩
  rwa [List.length_append] at hlen

theorem trim_append_cons {a b : Text} (hane : a ≠ []) (ha : trim a = a) (c : Char)
    (hbne : b ≠ []) (hb : trim b = b) : trim (a ++ c :: b) = a ++ c :: b := by
  refine trim_eq_self (fun d hd => ?_) (fun d hd => ?_)
  · obtain ⟨e, a, rfl⟩ := List.exists_cons_of_ne_nil hane
    cases hd
    exact head_of_trim_eq ha
  · obtain ⟨b, e, rfl⟩ := (List.eq_nil_or_concat b).resolve_left hbne
    rw [List.concat_eq_append] at hb hd
    rw [← List.cons_append, ← List.append_assoc, List.getLast?_concat] at hd
    cases hd
    exact last_of_trim_eq hb

section
variable {p : Char → Bool}

theorem splitBy_of_none {s : Text} (h : ∀ c ∈ s, p c = false) : splitBy p s = [s] := by
  induction s with
  | nil => rfl
  | cons c s ih =>
    have ih := ih fun d hd => h d (List.mem_cons_of_mem c hd)
    rw [splitBy, h c (List.mem_cons_self ..), if_neg Bool.false_ne_true, ih]

theorem flatten_splitBy (s : Text) : (splitBy p s).flatten = s.filter (!p ·) := by
  induction s with
  | nil => rfl
  | cons c s ih =>
    obtain ⟨piece, pieces, hs⟩ := List.exists_cons_of_ne_nil (splitBy_ne_nil p s)
    rw [hs] at ih
    rw [splitBy, hs, List.filter_cons]
    cases p c with
    | true => exact ih
    | false => exact congrArg (c :: ·) ih

theorem splitBy_append {a : Text} (h : ∀ c ∈ a, p c = false) (s : Text) :
    splitBy p (a ++ s) = (splitBy p s).modifyHead (a ++ ·) := by
  induction a with
  | nil =>
    cases hs : splitBy p s with
    | nil => exact absurd hs (splitBy_ne_nil p s)
    | cons piece pieces => exact hs
  | cons c a ih =>
    have ih := ih fun d hd => h d (List.mem_cons_of_mem c hd)
    rw [List.cons_append, splitBy, h c (List.mem_cons_self ..), if_neg Bool.false_ne_true, ih]
    cases hs : splitBy p s with
    | nil => exact absurd hs (splitBy_ne_nil p s)
    | cons piece pieces => rfl

theorem splitBy_append_cons {a : Text} (h : ∀ c ∈ a, p c = false) {sep : Char}
    (hsep : p sep = true) (s : Text) : splitBy p (a ++ sep :: s) = a :: splitBy p s := by
  rw [splitBy_append h, splitBy, if_pos hsep, List.modifyHead_cons, List.append_nil]

theorem splitBy_append_end {b : Text} (h : ∀ c ∈ b, p c = false) (s : Text) :
    ∃ pieces last, splitBy p s = pieces ++ [last] ∧ splitBy p (s ++ b) = pieces ++ [last ++ b] := by
  induction s with
  | nil => exact ⟨[], [], rfl, splitBy_of_none h⟩
  | cons c s ih =>
    obtain ⟨pieces, last, hs, hsb⟩ := ih
    cases hc : p c with
    | true =>
      refine ⟨[] :: pieces, last, ?_, ?_⟩
      · rw [splitBy, if_pos hc, hs, List.cons_append]
      · rw [List.cons_append, splitBy, if_pos hc, hsb, List.cons_append]
    | false =>
      have hone : ∀ d ∈ [c], p d = false := fun d hd => List.mem_singleton.mp hd ▸ hc
      have h₁ := splitBy_append hone s
      have h₂ := splitBy_append hone (s ++ b)
      rw [hs] at h₁
      rw [hsb] at h₂
      cases pieces with
      | nil => exact ⟨[], c :: last, h₁, h₂⟩
      | cons piece pieces => exact ⟨(c :: piece) :: pieces, last, h₁, h₂⟩

theorem map_trim_splitBy_padded (hp : ∀ c, isBlank c = true → p c = false) {s t : Text}
    (h : Padded s t) : (splitBy p t).map trim = (splitBy p s).map trim := by
  obtain ⟨a, b, ha, hb, rfl⟩ := h
  -- No blank separates: those after `s` go to its last piece, those before it to its first.
  obtain ⟨pieces, last, hs, hsb⟩ := splitBy_append_end (fun c hc => hp c (hb c hc)) s
  have hlast : trim (last ++ b) = trim last := trim_padded ⟨[], b, blank_nil, hb, rfl⟩
  have hend : (splitBy p (s ++ b)).map trim = (splitBy p s).map trim := by
    rw [hs, hsb, List.map_append, List.map_append, List.map_singleton, List.map_singleton, hlast]
  rw [← hend, List.append_assoc, splitBy_append fun c hc => hp c (ha c hc)]
  cases hq : splitBy p (s ++ b) with
  | nil => rfl
  | cons piece rest =>
    have hpiece : trim (a ++ piece) = trim piece :=
      trim_padded ⟨a, [], ha, blank_nil, (List.append_nil _).symm⟩
    rw [List.modifyHead_cons, List.map_cons, List.map_cons, hpiece]

end

theorem beq_eq_false_of_not_mem {sep : Char} {s : Text} (h : sep ∉ s) :
    ∀ c ∈ s, (c == sep) = false := by
  intro c hc
  refine beq_false_of_ne ?_
  rintro rfl
  exact h hc

theorem splitAtChar_of_not_mem {sep : Char} {s : Text} (h : sep ∉ s) : splitAtChar sep s = [s] :=
  splitBy_of_none (beq_eq_false_of_not_mem h)

theorem splitAtChar_append_cons {sep : Char} {a : Text} (h : sep ∉ a) (s : Text) :
    splitAtChar sep (a ++ sep :: s) = a :: splitAtChar sep s :=
  splitBy_append_cons (beq_eq_false_of_not_mem h) (beq_self_eq_true sep) s

end LitNote.Text
