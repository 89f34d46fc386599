import LitNote.Proofs.Template.Rendering
import LitNote.Proofs.Text.LowerCase
import LitNote.Proofs.Text.Padding
import LitNote.Proofs.Text.Parts
import Mathlib.Data.List.Infix

/-!
Title words.  Main statements: they are small letters and digits, fewer words are the beginning of
more, and taking words of words changes nothing; blanks around a title change nothing either, but
for those before a title without significant words.
-/

namespace LitNote.Title

open Text (Blank isBlank)

variable {title s a b w : Text} {count : Int}

def keyOf (c : Char) : Text := (Text.lowerOf c).filter isKeyChar

theorem filter_lowerAfter (before s : Text) :
    (Text.lowerAfter before s).filter isKeyChar = s.flatMap keyOf := by
  induction s generalizing before with
  | nil => rfl
  | cons c s ih =>
    rw [Text.lowerAfter, List.filter_append, ih, List.flatMap_cons]
    split
    · next hsigma =>
      have hc : c = Char.ofNat 0x3A3 := Char.toNat_inj.mp hsigma
      have hnone : keyOf (Char.ofNat 0x3A3) = [] ∧ isKeyChar (Char.ofNat 0x3C2) = false ∧
          isKeyChar (Char.ofNat 0x3C3) = false := by decide +kernel
      rw [hc, hnone.1, List.filter_singleton]
      split <;> simp [hnone.2]
    · rfl

theorem isKeyChar_iff {c : Char} : isKeyChar c = true ↔ c.isLower = true ∨ c.isDigit = true :=
  Bool.or_eq_true_iff

theorem isAsciiAlphanumeric_of_isKeyChar {c : Char} (h : isKeyChar c = true) :
    Text.isAsciiAlphanumeric c = true := by
  simp only [isKeyChar, Text.isAsciiDigit, Bool.or_eq_true, Bool.and_eq_true,
    decide_eq_true_eq] at h
  simp only [Text.isAsciiAlphanumeric, Text.isAsciiLetter, Text.isAsciiDigit, Bool.or_eq_true,
    Bool.and_eq_true, decide_eq_true_eq]
  omega

theorem keyOf_of_isKeyChar {c : Char} (h : isKeyChar c = true) : keyOf c = [c] := by
  have hascii : ∀ n < 128, isKeyChar (Char.ofNat n) = true →
      keyOf (Char.ofNat n) = [Char.ofNat n] := by decide
  exact Text.of_toNat_lt (P := fun c => isKeyChar c = true → keyOf c = [c]) hascii
    (Text.toNat_lt_of_isAsciiAlphanumeric (isAsciiAlphanumeric_of_isKeyChar h)) h

theorem keyOf_ne_nil {c : Char} (h : Text.isAsciiAlphanumeric c = true) : keyOf c ≠ [] := by
  have hascii : ∀ n < 128, Text.isAsciiAlphanumeric (Char.ofNat n) = true →
      keyOf (Char.ofNat n) ≠ [] := by decide
  exact Text.of_toNat_lt (P := fun c => Text.isAsciiAlphanumeric c = true → keyOf c ≠ []) hascii
    (Text.toNat_lt_of_isAsciiAlphanumeric h) h

theorem flatMap_keyOf (h : ∀ c ∈ s, isKeyChar c = true) : s.flatMap keyOf = s := by
  induction s with
  | nil => rfl
  | cons c s ih =>
    rw [List.flatMap_cons, keyOf_of_isKeyChar (h c (List.mem_cons_self ..)),
      ih fun d hd => h d (List.mem_cons_of_mem c hd)]
    rfl

def pieces (title : Text) : List Text := Text.splitRuns isBlank (withoutTags title)

def significant (title : Text) : List Text :=
  ((pieces title).map trimMarks).filter isSignificant

def candidates (title : Text) : List Text :=
  if significant title = [] then (pieces title).map trimMarks else significant title

theorem flatten_chosen (title : Text) (h : 0 ≤ count) :
    (chosen title count).flatten = ((candidates title).take count.toNat).flatten := by
  rw [chosen, candidates, significant, pieces]
  split
  · next hnone =>
    rw [if_pos hnone, List.flatten_filter_not_isEmpty, Text.takeTo_of_nonneg _ h, List.map_take]
  · next hsome =>
    rw [if_neg hsome, Text.takeTo_of_nonneg _ h]

theorem wordsOf_eq (title : Text) (h : 0 ≤ count) :
    wordsOf title count = ((candidates title).take count.toNat).flatten.flatMap keyOf := by
  rw [wordsOf, Text.toLower, filter_lowerAfter, flatten_chosen title h]

theorem words_text (title : Text) (h : 0 ≤ count) :
    words (.text title) count = wordsOf title count := by
  rw [words]
  split
  · next hnil =>
    have hcandidates : candidates [] = [[]] := by decide
    have hflat : ([[]].take count.toNat : List Text).flatten = [] :=
      List.flatten_eq_nil_iff.mpr fun w hw => List.mem_singleton.mp (List.mem_of_mem_take hw)
    rw [List.isEmpty_iff.mp hnil, wordsOf_eq [] h, hcandidates, hflat]
    rfl
  · rfl

theorem isKeyChar_of_mem_words {v : Value} {c : Char} (h : c ∈ words v count) :
    isKeyChar c = true := by
  rw [words.eq_def] at h
  split at h
  · split at h
    · exact absurd h List.not_mem_nil
    · exact (List.mem_filter.mp h).2
  · exact absurd h List.not_mem_nil

theorem words_prefix (title : Text) {m n : Int} (hm : 0 ≤ m) (hmn : m ≤ n) :
    words (.text title) m <+: words (.text title) n := by
  have hcut : (candidates title).take m.toNat <+: (candidates title).take n.toNat :=
    List.take_prefix_take_left (by omega)
  rw [words_text title hm, words_text title (by omega), wordsOf_eq title hm,
    wordsOf_eq title (by omega)]
  exact hcut.flatten.flatMap keyOf

theorem withoutTags_append_start (ha : '<' ∉ a) (s : Text) :
    withoutTags (a ++ s) = a ++ withoutTags s := by
  induction a with
  | nil => rfl
  | cons c a ih =>
    rw [List.mem_cons, not_or] at ha
    have hnone : tagLength? (c :: (a ++ s)) = none := by
      rw [tagLength?]
      exact fun rest h => ha.1 (List.cons.inj h).1.symm
    rw [withoutTags, List.cons_append, withoutTagsFrom, hnone, ← withoutTags, ih ha.2]
    rfl

theorem withoutTags_of_not_mem (h : '<' ∉ s) : withoutTags s = s := by
  have happend := withoutTags_append_start h []
  rw [List.append_nil] at happend
  exact happend.trans (List.append_nil s)

theorem tagLength?_of_not_mem (h : '>' ∉ s) : tagLength? ('<' :: s) = none := by
  have hrest : s.dropWhile (· != '>') = [] :=
    List.dropWhile_eq_nil_iff.mpr fun c hc => bne_iff_ne.mpr fun heq => h (heq ▸ hc)
  rw [tagLength?, hrest, List.isEmpty_nil, Bool.or_true, if_pos rfl]

theorem tagLength?_of_end (h : '>' ∉ a) (s : Text) :
    tagLength? ('<' :: (a ++ '>' :: s)) = if a.isEmpty then none else some (a.length + 1) := by
  have hall : ∀ c ∈ a, (c != '>') = true := fun c hc => bne_iff_ne.mpr fun heq => h (heq ▸ hc)
  have hend : ('>' != '>') = false := rfl
  rw [tagLength?, List.takeWhile_append_of_pos hall, List.dropWhile_append_of_pos hall,
    List.takeWhile_cons, List.dropWhile_cons, hend, if_neg Bool.false_ne_true,
    if_neg Bool.false_ne_true, List.append_nil, List.isEmpty_cons, Bool.or_false]

theorem tagLength?_le {c : Char} {n : Nat} (h : tagLength? (c :: s) = some n) : n ≤ s.length := by
  by_cases hc : c = '<'
  · rw [hc] at h
    by_cases hend : '>' ∈ s
    · obtain ⟨a, rest, rfl, ha⟩ := List.eq_append_cons_of_mem hend
      rw [tagLength?_of_end ha] at h
      split at h
      · cases h
      · cases h
        rw [List.length_append, List.length_cons]
        omega
    · rw [tagLength?_of_not_mem hend] at h
      cases h
  · rw [tagLength?.eq_def] at h
    split at h
    · next heq => exact absurd (List.cons.inj heq).1 hc
    · cases h

theorem tagLength?_append (c : Char) (hb : '>' ∉ b) (s : Text) :
    tagLength? (c :: (s ++ b)) = tagLength? (c :: s) := by
  by_cases hc : c = '<'
  · rw [hc]
    by_cases hend : '>' ∈ s
    · obtain ⟨a, rest, rfl, ha⟩ := List.eq_append_cons_of_mem hend
      rw [List.append_assoc, List.cons_append, tagLength?_of_end ha, tagLength?_of_end ha]
    · rw [tagLength?_of_not_mem hend, tagLength?_of_not_mem]
      rw [List.mem_append, not_or]
      exact ⟨hend, hb⟩
  · have hnone (t : Text) : tagLength? (c :: t) = none := by
      rw [tagLength?]
      exact fun rest h => hc (List.cons.inj h).1
    rw [hnone, hnone]

theorem withoutTagsFrom_append_end (hstart : '<' ∉ b) (hend : '>' ∉ b) {skip : Nat}
    (hskip : skip ≤ s.length) :
    withoutTagsFrom skip (s ++ b) = withoutTagsFrom skip s ++ b := by
  induction s generalizing skip with
  | nil =>
    rw [Nat.le_zero.mp hskip]
    exact withoutTags_of_not_mem hstart
  | cons c s ih =>
    cases skip with
    | succ skip => exact ih (Nat.le_of_succ_le_succ hskip)
    | zero =>
      rw [List.cons_append, withoutTagsFrom, withoutTagsFrom, tagLength?_append c hend]
      split
      · next n htag => exact ih (tagLength?_le htag)
      · rw [ih (Nat.zero_le _), List.cons_append]

theorem withoutTags_padded (ha : Blank a) (hb : Blank b) (s : Text) :
    withoutTags (a ++ s ++ b) = a ++ withoutTags s ++ b := by
  rw [List.append_assoc, List.append_assoc,
    withoutTags_append_start (ha.not_mem (by decide)), withoutTags,
    withoutTagsFrom_append_end (hb.not_mem (by decide)) (hb.not_mem (by decide)) (Nat.zero_le _),
    withoutTags]

theorem trimMarks_of_alphanumeric (h : ∀ c ∈ w, Text.isAsciiAlphanumeric c = true) :
    trimMarks w = w := by
  have hkeep (t : Text) (ht : ∀ c ∈ t, Text.isAsciiAlphanumeric c = true) :
      t.dropWhile (!Text.isAsciiAlphanumeric ·) = t := by
    cases t with
    | nil => rfl
    | cons c t => exact List.dropWhile_cons_of_neg (by simp [ht c (List.mem_cons_self ..)])
  rw [trimMarks, hkeep w h, hkeep _ fun c hc => h c (List.mem_reverse.mp hc), List.reverse_reverse]

theorem candidates_of_alphanumeric (h : ∀ c ∈ s, Text.isAsciiAlphanumeric c = true) :
    candidates s = [s] := by
  have htag : '<' ∉ s := fun hmem => absurd (h _ hmem) (by decide)
  have hblank : ∀ c ∈ s, isBlank c = false := fun c hc =>
    Text.isBlank_of_isAsciiWordChar (Bool.or_eq_true_iff.mpr (.inl (h c hc)))
  have hpieces : pieces s = [s] := by
    rw [pieces, withoutTags_of_not_mem htag, Text.splitRuns_of_none hblank]
  rw [candidates, significant, hpieces, List.map_singleton, trimMarks_of_alphanumeric h]
  split
  · rfl
  · next hsome =>
    -- There is one word, and it is significant.
    obtain ⟨v, hv⟩ := List.exists_mem_of_ne_nil _ hsome
    obtain ⟨hmem, hsignificant⟩ := List.mem_filter.mp hv
    have hword : isSignificant s = true := List.mem_singleton.mp hmem ▸ hsignificant
    rw [List.filter_singleton, hword]
    rfl

theorem words_of_keyChars (h : ∀ c ∈ s, isKeyChar c = true) {k : Int} (hk : 1 ≤ k) :
    words (.text s) k = s := by
  have hcandidates := candidates_of_alphanumeric fun c hc =>
    isAsciiAlphanumeric_of_isKeyChar (h c hc)
  have hcut : [s].take k.toNat = [s] :=
    List.take_of_length_le (by rw [List.length_singleton]; omega)
  rw [words_text s (by omega), wordsOf_eq s (by omega), hcandidates, hcut, List.flatten_singleton,
    flatMap_keyOf h]

/-- Blanks before a title that count as a word of their own in it. -/
def Opens (a s : Text) : Prop := a ≠ [] ∧ (withoutTags s).head?.any isBlank = false

instance (a s : Text) : Decidable (Opens a s) := inferInstanceAs (Decidable (_ ∧ _))

theorem splitRuns_append_blank (ha : Blank a) (s : Text) :
    Text.splitRuns isBlank (a ++ withoutTags s) =
      (if Opens a s then [[]] else []) ++ pieces s := by
  by_cases hne : a = []
  · rw [if_neg fun h => h.1 hne, hne]
    rfl
  · rw [Text.splitRuns_append_start ha hne, pieces]
    cases hhead : (withoutTags s).head?.any isBlank with
    | true =>
      have hnot : ¬Opens a s := fun h => absurd (hhead.symm.trans h.2) (by decide)
      rw [if_pos rfl, if_neg hnot]
      rfl
    | false =>
      rw [if_neg Bool.false_ne_true, if_pos ⟨hne, hhead⟩]
      rfl

theorem exists_pieces_padded (ha : Blank a) (hb : Blank b) (s : Text) :
    ∃ ends, (∀ w ∈ ends, w = []) ∧
      pieces (a ++ s ++ b) = (if Opens a s then [[]] else []) ++ pieces s ++ ends := by
  obtain ⟨ends, hends, hsplit⟩ := Text.splitRuns_append_end hb (a ++ withoutTags s)
  refine ⟨ends, hends, ?_⟩
  rw [pieces, withoutTags_padded ha hb, hsplit, splitRuns_append_blank ha]

theorem map_trimMarks_of_empty {ws : List Text} (h : ∀ w ∈ ws, w = []) : ws.map trimMarks = ws := by
  refine (List.map_congr_left fun w hw => ?_).trans (List.map_id ws)
  rw [h w hw]
  rfl

theorem filter_significant_of_empty {ws : List Text} (h : ∀ w ∈ ws, w = []) :
    (ws.map trimMarks).filter isSignificant = [] := by
  rw [map_trimMarks_of_empty h, List.filter_eq_nil_iff]
  intro w hw
  rw [h w hw]
  decide

theorem significant_padded (ha : Blank a) (hb : Blank b) (s : Text) :
    significant (a ++ s ++ b) = significant s := by
  obtain ⟨ends, hends, hpieces⟩ := exists_pieces_padded ha hb s
  have hstarts : ∀ w ∈ (if Opens a s then [[]] else [] : List Text), w = [] := by
    intro w hw
    split at hw
    · exact List.mem_singleton.mp hw
    · exact absurd hw List.not_mem_nil
  rw [significant, hpieces, List.map_append, List.map_append, List.filter_append,
    List.filter_append, filter_significant_of_empty hstarts, filter_significant_of_empty hends,
    List.append_nil, List.nil_append, significant]

theorem flatten_take_append {ws : List Text} (h : ∀ w ∈ ws, w = []) (vs : List Text) (n : Nat) :
    ((vs ++ ws).take n).flatten = (vs.take n).flatten := by
  have hnone : (ws.take (n - vs.length)).flatten = [] :=
    List.flatten_eq_nil_iff.mpr fun w hw => h w (List.mem_of_mem_take hw)
  rw [List.take_append, List.flatten_append, hnone, List.append_nil]

/-- Blanks count as the first of the words if all words of a title are taken into account. -/
def CountsBlanks (a s : Text) : Prop := Opens a s ∧ significant s = []

instance (a s : Text) : Decidable (CountsBlanks a s) := inferInstanceAs (Decidable (_ ∧ _))

theorem flatten_candidates_padded (ha : Blank a) (hb : Blank b) (s : Text) (n : Nat) :
    ((candidates (a ++ s ++ b)).take (n + 1)).flatten =
      ((candidates s).take (if CountsBlanks a s then n else n + 1)).flatten := by
  obtain ⟨ends, hends, hpieces⟩ := exists_pieces_padded ha hb s
  rw [candidates, candidates, significant_padded ha hb]
  by_cases hnone : significant s = []
  · rw [if_pos hnone, if_pos hnone, hpieces, List.map_append, map_trimMarks_of_empty hends,
      flatten_take_append hends]
    by_cases hopens : Opens a s
    · rw [if_pos hopens, if_pos ⟨hopens, hnone⟩]
      rfl
    · rw [if_neg hopens, if_neg fun h => hopens h.1]
      rfl
  · rw [if_neg hnone, if_neg hnone, if_neg fun h => hnone h.2]

theorem words_padded_eq (ha : Blank a) (hb : Blank b) (s : Text) (h : 1 ≤ count) :
    words (.text (a ++ s ++ b)) count =
      words (.text s) (if CountsBlanks a s then count - 1 else count) := by
  have hcount : count.toNat = (count - 1).toNat + 1 := by omega
  have hflatten := flatten_candidates_padded ha hb s (count - 1).toNat
  rw [← hcount] at hflatten
  rw [words_text _ (by omega), wordsOf_eq _ (by omega), hflatten]
  split
  · rw [words_text _ (by omega), wordsOf_eq _ (by omega)]
  · rw [words_text _ (by omega), wordsOf_eq _ (by omega)]

theorem mem_trimMarks {c : Char} (h : c ∈ w) (hc : Text.isAsciiAlphanumeric c = true) :
    c ∈ trimMarks w := by
  have hkeep {t : Text} (ht : c ∈ t) : c ∈ t.dropWhile (!Text.isAsciiAlphanumeric ·) := by
    rw [← List.takeWhile_append_dropWhile (p := (!Text.isAsciiAlphanumeric ·)) (l := t),
      List.mem_append] at ht
    refine ht.resolve_left fun hmark => ?_
    have hnot := List.mem_takeWhile_imp hmark
    rw [hc] at hnot
    cases hnot
  exact List.mem_reverse.mpr (hkeep (List.mem_reverse.mpr (hkeep h)))

theorem flatMap_keyOf_trimMarks_eq_nil_iff :
    (trimMarks w).flatMap keyOf = [] ↔ ∀ c ∈ w, Text.isAsciiAlphanumeric c = false := by
  constructor
  · intro h c hc
    rw [Bool.eq_false_iff]
    intro halphanumeric
    exact keyOf_ne_nil halphanumeric
      (List.flatMap_eq_nil_iff.mp h c (mem_trimMarks hc halphanumeric))
  · intro h
    have hdrop : w.dropWhile (!Text.isAsciiAlphanumeric ·) = [] :=
      List.dropWhile_eq_nil_iff.mpr fun c hc => by rw [h c hc]; rfl
    rw [trimMarks, hdrop]
    rfl

theorem words_pred_eq_iff (hnone : significant s = []) (h : 1 ≤ count) :
    words (.text s) (count - 1) = words (.text s) count ↔
      ∀ w, (pieces s)[(count - 1).toNat]? = some w → ∀ c ∈ w,
        Text.isAsciiAlphanumeric c = false := by
  have hcount : count.toNat = (count - 1).toNat + 1 := by omega
  rw [words_text _ (by omega), words_text _ (by omega), wordsOf_eq _ (by omega),
    wordsOf_eq _ (by omega), hcount, List.take_add_one, List.flatten_append, List.flatMap_append,
    List.self_eq_append_right, candidates, if_pos hnone, List.getElem?_map]
  cases (pieces s)[(count - 1).toNat]? with
  | none => exact ⟨fun _ w hw => (nomatch hw), fun _ => rfl⟩
  | some w =>
    rw [Option.map_some, Option.toList_some, List.flatten_singleton,
      flatMap_keyOf_trimMarks_eq_nil_iff]
    exact ⟨fun hw v hv => Option.some.inj hv ▸ hw, fun hw => hw w rfl⟩

/-- Title words are small ASCII letters and digits, the first words begin those of which there are
more, and words taken again are the same; so it is for the formatters, which take one word and
three. -/
theorem words_shape (title : Text) {m n k : Int} (hm : 0 ≤ m) (hmn : m ≤ n) (hk : 1 ≤ k) :
    (∀ c ∈ words (.text title) n, c.isLower = true ∨ c.isDigit = true) ∧
      words (.text title) m <+: words (.text title) n ∧
      words (.text (words (.text title) n)) k = words (.text title) n ∧
      ∃ one three, Template.Formatter.apply "titleword".toList (.text title) [] = pure one ∧
        Template.Formatter.apply "shorttitle".toList (.text title) [] = pure three ∧
        one <+: three := by
  have hchars : ∀ c ∈ words (.text title) n, isKeyChar c = true := fun c => isKeyChar_of_mem_words
  have hprefix := words_prefix title (m := 1) (n := 3) (by decide) (by decide)
  rw [words_text title (by decide), words_text title (by decide)] at hprefix
  refine ⟨fun c hc => isKeyChar_iff.mp (hchars c hc), words_prefix title hm hmn,
    words_of_keyChars hchars hk, _, _, ?_, ?_, hprefix⟩
  · exact Template.Formatter.apply_of_draw (f := .titleWord) (by decide) rfl rfl
  · exact Template.Formatter.apply_of_draw (f := .shortTitle) (by decide) rfl rfl

theorem words_shape_stopWord :
    words (.text "T-h-e <i>Art</i> of War".toList) 1 = "the".toList ∧
      words (.text "T-h-e <i>Art</i> of War".toList) 2 = "theart".toList ∧
      (∀ c ∈ "the".toList, c.isLower = true ∨ c.isDigit = true) ∧
      words (.text "the".toList) 2 = "the".toList ∧ "the".toList <+: "theart".toList := by
  have hone : words (.text "T-h-e <i>Art</i> of War".toList) 1 = "the".toList := by
    decide +kernel
  have htwo : words (.text "T-h-e <i>Art</i> of War".toList) 2 = "theart".toList := by
    decide +kernel
  obtain ⟨hchars, -, hagain, -⟩ := words_shape "T-h-e <i>Art</i> of War".toList (m := 0) (n := 1)
    (k := 2) (by decide) (by decide) (by decide)
  obtain ⟨-, hprefix, -⟩ := words_shape "T-h-e <i>Art</i> of War".toList (m := 1) (n := 2)
    (k := 1) (by decide) (by decide) (by decide)
  rw [hone] at hchars hagain hprefix
  rw [htwo] at hprefix
  exact ⟨hone, htwo, hchars, hagain, hprefix⟩

/-- Blanks after a title change nothing, nor do those before it, but for one case: without a
significant word they count as a word of their own, unless the title starts with blanks already.
Then there is one word less, which is to be seen unless that word consists of marks. -/
theorem words_padded_iff (ha : Blank a) (hb : Blank b) (s : Text) (h : 1 ≤ count) :
    words (.text (a ++ s ++ b)) count =
        words (.text s) (if CountsBlanks a s then count - 1 else count) ∧
      (words (.text (a ++ s ++ b)) count = words (.text s) count ↔
        (CountsBlanks a s → ∀ w, (pieces s)[(count - 1).toNat]? = some w →
          ∀ c ∈ w, Text.isAsciiAlphanumeric c = false)) := by
  have heq := words_padded_eq ha hb s h
  refine ⟨heq, ?_⟩
  rw [heq]
  by_cases hcounts : CountsBlanks a s
  · rw [if_pos hcounts, words_pred_eq_iff hcounts.2 h]
    exact ⟨fun hmarks _ => hmarks, fun hmarks => hmarks hcounts⟩
  · rw [if_neg hcounts]
    exact ⟨fun _ h => absurd h hcounts, fun _ => rfl⟩

theorem words_padded_iff_road :
    Blank " ".toList ∧ Blank "\n".toList ∧
      words (.text " The Road\n".toList) 2 = words (.text "The Road".toList) 2 := by
  have hfirst : Blank " ".toList := by decide
  have hlast : Blank "\n".toList := by decide
  have hcounts : ¬CountsBlanks " ".toList "The Road".toList := by decide +kernel
  have hiff := (words_padded_iff hfirst hlast "The Road".toList (show (1 : Int) ≤ 2 by decide)).2
  exact ⟨hfirst, hlast, hiff.mpr fun h => absurd h hcounts⟩

theorem words_blankStart :
    words (.text "Of the".toList) 2 = "ofthe".toList ∧
      words (.text " Of the".toList) 2 = "of".toList := by
  decide +kernel

end LitNote.Title
