import LitNote.Text.Basic
import Mathlib.Algebra.Ring.Nat

/-!
Parts of a text: where a part occurs, and that nothing is cut or replaced where it does not.
-/

namespace LitNote.Text

theorem contains_append_right {part : Text} (s : Text) {t : Text} (h : contains part t = true) :
    contains part (s ++ t) = true := by
  induction s with
  | nil => exact h
  | cons c s ih => rw [List.cons_append, contains, ih, Bool.or_true]

theorem contains_self_append {part : Text} (hne : part ≠ []) (t : Text) :
    contains part (part ++ t) = true := by
  cases part with
  | nil => exact absurd rfl hne
  | cons c part =>
    have hprefix : (c :: part).isPrefixOf (c :: (part ++ t)) = true :=
      List.isPrefixOf_iff_prefix.mpr (List.prefix_append (c :: part) t)
    rw [List.cons_append, contains, hprefix, Bool.true_or]

theorem join_cons (sep piece : Text) {pieces : List Text} (hne : pieces ≠ []) :
    join sep (piece :: pieces) = piece ++ (sep ++ join sep pieces) := by
  obtain ⟨next, pieces, rfl⟩ := List.exists_cons_of_ne_nil hne
  rw [join, List.intercalate_cons_cons, List.append_assoc]
  rfl

theorem join_append_cons (sep s piece : Text) (pieces : List Text) :
    join sep ((s ++ piece) :: pieces) = s ++ join sep (piece :: pieces) := by
  cases pieces with
  | nil => rw [join, join, List.intercalate_singleton, List.intercalate_singleton]
  | cons next pieces =>
    rw [join_cons _ _ (List.cons_ne_nil _ _), join_cons _ _ (List.cons_ne_nil _ _),
      List.append_assoc]

theorem length_join (sep : Text) (pieces : List Text) :
    (join sep pieces).length =
      (pieces.map List.length).sum + sep.length * (pieces.length - 1) := by
  induction pieces with
  | nil => rfl
  | cons piece pieces ih =>
    by_cases hne : pieces = []
    · rw [hne, join, List.intercalate_singleton]
      simp
    · have hpos : 0 < pieces.length := List.length_pos_iff.mpr hne
      obtain ⟨n, hn⟩ := Nat.exists_eq_succ_of_ne_zero (Nat.ne_of_gt hpos)
      rw [join_cons sep piece hne, List.length_append, List.length_append, ih, List.map_cons,
        List.sum_cons, List.length_cons, hn, Nat.succ_sub_one, Nat.add_sub_cancel, Nat.mul_succ]
      omega

theorem mem_join_iff {sep : Text} {pieces : List Text} {c : Char} :
    c ∈ join sep pieces ↔ c ∈ pieces.flatten ∨ (c ∈ sep ∧ 1 < pieces.length) := by
  induction pieces with
  | nil => simp [join]
  | cons piece pieces ih =>
    by_cases hne : pieces = []
    · rw [hne, join, List.intercalate_singleton]
      simp
    · have hlength : 0 < pieces.length := List.length_pos_iff.mpr hne
      rw [join_cons sep piece hne, List.mem_append, List.mem_append, ih, List.flatten_cons,
        List.mem_append, List.length_cons]
      have hmore : 1 < pieces.length + 1 := Nat.succ_lt_succ hlength
      constructor
      · rintro (h | h | h | ⟨h, -⟩)
        · exact .inl (.inl h)
        · exact .inr ⟨h, hmore⟩
        · exact .inl (.inr h)
        · exact .inr ⟨h, hmore⟩
      · rintro ((h | h) | ⟨h, -⟩)
        · exact .inl h
        · exact .inr (.inr (.inl h))
        · exact .inr (.inl h)

theorem splitOn_cons (c d : Char) (s : Text) : ∃ piece pieces, splitOn [c] s = piece :: pieces ∧
    splitOn [c] (d :: s) = if d == c then [] :: piece :: pieces else (d :: piece) :: pieces := by
  have hne : splitOn [c] s ≠ [] := by
    cases s with
    | nil => exact List.cons_ne_nil _ _
    | cons e s =>
      rw [splitOn, splitOnFrom]
      split
      · exact List.cons_ne_nil _ _
      · split <;> exact List.cons_ne_nil _ _
  obtain ⟨piece, pieces, heq⟩ := List.exists_cons_of_ne_nil hne
  refine ⟨piece, pieces, heq, ?_⟩
  have hprefix : [c].isPrefixOf (d :: s) = (d == c) := by
    rw [List.isPrefixOf, List.isPrefixOf_nil_left, Bool.and_true, BEq.comm]
  rw [splitOn] at heq
  rw [splitOn, splitOnFrom, hprefix]
  split
  · exact congrArg (List.cons []) heq
  · rw [heq]

theorem replaceAll_char (c : Char) (new s : Text) :
    replaceAll [c] new s = s.flatMap fun d => if d == c then new else [d] := by
  have hjoin : replaceAll [c] new s = join new (splitOn [c] s) := rfl
  rw [hjoin]
  clear hjoin
  induction s with
  | nil => rfl
  | cons d s ih =>
    obtain ⟨piece, pieces, heq, hcons⟩ := splitOn_cons c d s
    rw [heq] at ih
    rw [hcons, List.flatMap_cons, ← ih]
    split
    · rw [join_cons new [] (List.cons_ne_nil _ _)]
      rfl
    · cases pieces with
      | nil => rfl
      | cons next pieces =>
        rw [join_cons new _ (List.cons_ne_nil _ _), join_cons new _ (List.cons_ne_nil _ _)]
        rfl

theorem replaceAll_char_cons (c : Char) (new : Text) (d : Char) (s : Text) :
    replaceAll [c] new (d :: s) = (if d == c then new else [d]) ++ replaceAll [c] new s := by
  rw [replaceAll_char, replaceAll_char, List.flatMap_cons]

theorem replaceAll_of_not_mem {c : Char} {s : Text} (new : Text) (h : c ∉ s) :
    replaceAll [c] new s = s := by
  induction s with
  | nil => rfl
  | cons d s ih =>
    rw [List.mem_cons, not_or] at h
    rw [replaceAll_char_cons, beq_false_of_ne (Ne.symm h.1), if_neg Bool.false_ne_true, ih h.2]
    rfl

theorem takeTo_of_nonneg {α : Type} (xs : List α) {i : Int} (h : 0 ≤ i) :
    takeTo xs i = xs.take i.toNat := by
  rw [takeTo, position, if_neg (Int.not_lt.mpr h), ← List.take_eq_take_min]

section
variable {p : Char → Bool}

theorem splitRuns_ne_nil (p : Char → Bool) (s : Text) : splitRuns p s ≠ [] := by
  fun_induction splitRuns p s <;> simp_all

theorem splitRuns_cons_of_sep {c : Char} (hc : p c = true) (s : Text) :
    splitRuns p (c :: s) =
      if s.head?.any p then splitRuns p s else [] :: splitRuns p s := by
  rw [splitRuns.eq_def]
  dsimp only
  rw [if_pos hc]
  cases s <;> rfl

theorem splitRuns_cons_of_not_sep {c : Char} (hc : p c = false) (s : Text) :
    splitRuns p (c :: s) = (splitRuns p s).modifyHead (c :: ·) := by
  obtain ⟨piece, pieces, heq⟩ := List.exists_cons_of_ne_nil (splitRuns_ne_nil p s)
  rw [splitRuns.eq_def]
  dsimp only
  rw [hc, if_neg Bool.false_ne_true, heq]
  rfl

theorem splitRuns_cases (p : Char → Bool) (c : Char) (s : Text) :
    (p c = false ∧ ∃ piece pieces, splitRuns p s = piece :: pieces ∧
      splitRuns p (c :: s) = (c :: piece) :: pieces) ∨
    (p c = true ∧ splitRuns p (c :: s) = [] :: splitRuns p s) ∨
    (p c = true ∧ (∃ d ∈ s, p d = true) ∧ splitRuns p (c :: s) = splitRuns p s) := by
  cases hc : p c with
  | false =>
    obtain ⟨piece, pieces, heq⟩ := List.exists_cons_of_ne_nil (splitRuns_ne_nil p s)
    refine .inl ⟨rfl, piece, pieces, heq, ?_⟩
    rw [splitRuns_cons_of_not_sep hc, heq]
    rfl
  | true =>
    rw [splitRuns_cons_of_sep hc]
    split
    · next hhead =>
      obtain ⟨d, hd, hp⟩ := (Option.any_eq_true _ _).mp hhead
      exact .inr (.inr ⟨rfl, ⟨d, List.mem_of_head? hd, hp⟩, rfl⟩)
    · exact .inr (.inl ⟨rfl, rfl⟩)

theorem splitRuns_of_none {s : Text} (h : ∀ c ∈ s, p c = false) : splitRuns p s = [s] := by
  induction s with
  | nil => rfl
  | cons c s ih =>
    have ih := ih fun d hd => h d (List.mem_cons_of_mem c hd)
    rw [splitRuns_cons_of_not_sep (h c (List.mem_cons_self ..)), ih]
    rfl

theorem splitRuns_append_start {a : Text} (ha : ∀ c ∈ a, p c = true) (hne : a ≠ []) (s : Text) :
    splitRuns p (a ++ s) = if s.head?.any p then splitRuns p s else [] :: splitRuns p s := by
  induction a with
  | nil => exact absurd rfl hne
  | cons c a ih =>
    rw [List.cons_append, splitRuns_cons_of_sep (ha c (List.mem_cons_self ..))]
    cases a with
    | nil => rfl
    | cons d a =>
      have ih := ih (fun e he => ha e (List.mem_cons_of_mem c he)) (List.cons_ne_nil _ _)
      have hd : (d :: a ++ s).head?.any p = true :=
        ha d (List.mem_cons_of_mem c (List.mem_cons_self ..))
      rw [if_pos hd, ih]

theorem splitRuns_append_end {b : Text} (hb : ∀ c ∈ b, p c = true) (s : Text) :
    ∃ ends, (∀ piece ∈ ends, piece = []) ∧ splitRuns p (s ++ b) = splitRuns p s ++ ends := by
  induction s with
  | nil =>
    by_cases hne : b = []
    · rw [hne]
      exact ⟨[], fun _ h => absurd h List.not_mem_nil, (List.append_nil _).symm⟩
    · refine ⟨[[]], fun _ h => List.mem_singleton.mp h, ?_⟩
      have hsplit := splitRuns_append_start hb hne []
      rw [List.append_nil] at hsplit
      rw [List.nil_append, hsplit]
      rfl
  | cons c s ih =>
    obtain ⟨ends, hends, hsplit⟩ := ih
    cases hc : p c with
    | false =>
      refine ⟨ends, hends, ?_⟩
      obtain ⟨piece, pieces, hpieces⟩ := List.exists_cons_of_ne_nil (splitRuns_ne_nil p s)
      rw [List.cons_append, splitRuns_cons_of_not_sep hc, splitRuns_cons_of_not_sep hc, hsplit,
        hpieces]
      rfl
    | true =>
      -- A text of one separator ends with an empty piece already, any other goes on.
      cases s with
      | nil =>
        refine ⟨[], fun _ h => absurd h List.not_mem_nil, ?_⟩
        have hall : ∀ d ∈ c :: b, p d = true := List.forall_mem_cons.mpr ⟨hc, hb⟩
        have hblank := splitRuns_append_start hall (List.cons_ne_nil c b) []
        have hone := splitRuns_cons_of_sep hc []
        rw [List.append_nil] at hblank
        rw [List.append_nil, List.singleton_append, hblank, hone]
      | cons d s =>
        refine ⟨ends, hends, ?_⟩
        rw [List.cons_append, splitRuns_cons_of_sep hc, splitRuns_cons_of_sep hc, hsplit]
        cases hd : p d <;> simp [hd]

theorem flatten_splitRuns (s : Text) : (splitRuns p s).flatten = s.filter (!p ·) := by
  induction s with
  | nil => rfl
  | cons c s ih =>
    rw [List.filter_cons]
    rcases splitRuns_cases p c s with ⟨hc, piece, pieces, heq, hcons⟩ | ⟨hc, hcons⟩ | ⟨hc, -, hcons⟩
    · rw [heq] at ih
      rw [hcons, hc, ← ih]
      rfl
    · rw [hcons, hc, ← ih]
      rfl
    · rw [hcons, hc, ih]
      rfl

theorem one_lt_length_splitRuns {s : Text} (h : ∃ c ∈ s, p c = true) :
    1 < (splitRuns p s).length := by
  induction s with
  | nil =>
    obtain ⟨c, hc, -⟩ := h
    cases hc
  | cons d s ih =>
    rcases splitRuns_cases p d s with
      ⟨hd, piece, pieces, heq, hcons⟩ | ⟨-, hcons⟩ | ⟨-, hmore, hcons⟩
    · obtain ⟨c, hc, hp⟩ := h
      rcases List.mem_cons.mp hc with rfl | hc
      · rw [hd] at hp
        cases hp
      · have hlength := ih ⟨c, hc, hp⟩
        rw [heq] at hlength
        rw [hcons]
        exact hlength
    · rw [hcons, List.length_cons]
      have hpos := List.length_pos_iff.mpr (splitRuns_ne_nil p s)
      omega
    · rw [hcons]
      exact ih hmore

end

end LitNote.Text
