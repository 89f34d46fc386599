import LitNote.Citation.Bracket
import LitNote.Proofs.Template.Rendering
import LitNote.Proofs.Text.Casing
import Mathlib.Data.List.Forall2
import Mathlib.Data.List.TakeWhile

/-!
The compact notation of key templates as a small language.  Main statement: a template of literals
and groups, expanded and read as a template, gives the text of every literal and the variable that
every group means.
-/

namespace LitNote.Bracket

open Template (Node IsName IsKey IsFormatter)

inductive Part where
  | literal (s : Text)
  | group (g : Group)
deriving Repr, DecidableEq

def Part.spelling : Part → Text
  | .literal s => s
  | .group g => g.spelling

structure Group.IsWellFormed (g : Group) : Prop where
  ne_nil : g.field ≠ []
  isWord : ∀ c ∈ g.field, Text.isAsciiWordChar c = true
  areModifiers : ∀ m ∈ g.modifiers, m ≠ [] ∧ ∀ c ∈ m, isModifierChar c = true

theorem Group.isWellFormed_iff {g : Group} :
    g.IsWellFormed ↔ g.field ≠ [] ∧ g.field.all Text.isAsciiWordChar = true ∧
      (g.modifiers.all fun m => !m.isEmpty && m.all isModifierChar) = true := by
  simp only [List.all_eq_true, Bool.and_eq_true, Bool.not_eq_true', List.isEmpty_eq_false_iff]
  exact ⟨fun h => ⟨h.1, h.2, h.3⟩, fun h => ⟨h.1, h.2.1, h.2.2⟩⟩

instance (g : Group) : Decidable g.IsWellFormed := decidable_of_iff _ Group.isWellFormed_iff.symm

def startsWithLiteral : List Part → Prop
  | .literal _ :: _ => True
  | _ => False

inductive WellFormed : List Part → Prop
  | nil : WellFormed []
  | literal {s : Text} {parts : List Part} (ne_nil : s ≠ [])
      (noMark : '[' ∉ s ∧ ']' ∉ s ∧ '{' ∉ s ∧ '}' ∉ s) (next : ¬startsWithLiteral parts) :
      WellFormed parts → WellFormed (.literal s :: parts)
  | group {g : Group} {parts : List Part} (isWellFormed : g.IsWellFormed) :
      WellFormed parts → WellFormed (.group g :: parts)

def IsDigits (s : Text) : Prop := s ≠ [] ∧ ∀ c ∈ s, Text.isAsciiDigit c = true

def counted (word : String) (digits : Text) : Text := word.toList ++ '(' :: (digits ++ [')'])

inductive Stands (field : Text) : Text → Text → Prop
  | abbreviation {digits : Text} : IsDigits digits →
      Stands field (counted "abbr" digits) ("abbr".toList ++ digits)
  | titleWords {digits : Text} : field = "title".toList → IsDigits digits →
      Stands field (counted "words" digits) "titleword".toList
  | shortTitleWords {digits : Text} : field = "shorttitle".toList → IsDigits digits →
      Stands field (counted "words" digits) "shorttitle".toList
  | itself {m : Text} : (∀ digits, IsDigits digits → m ≠ counted "abbr" digits) →
      (field = "title".toList ∨ field = "shorttitle".toList →
        ∀ digits, IsDigits digits → m ≠ counted "words" digits) → Stands field m m

inductive Part.Means : Part → Node → Prop
  | literal (s : Text) : Means (.literal s) (.text s)
  | group {g : Group} {field : Text} {fs : List Text} : field = g.field.map Char.toLower →
      List.Forall₂ (Stands field) g.modifiers fs →
      Means (.group g) (.var (if field = "auth".toList then "author".toList else field) fs)

namespace Group

theorem counted?_eq_some_iff {word : String} {m digits : Text} :
    counted? word m = some digits ↔ IsDigits digits ∧ m = counted word digits := by
  constructor
  · intro h
    rw [counted?] at h
    dsimp only at h
    split at h
    · next hprefix =>
      obtain ⟨rest, rfl⟩ := List.isPrefixOf_iff_prefix.mp hprefix
      rw [List.drop_left] at h
      split at h
      · next hdigits =>
        cases h
        rw [Bool.and_eq_true, Bool.not_eq_true', beq_iff_eq] at hdigits
        have hrest := @List.takeWhile_append_dropWhile _ Text.isAsciiDigit rest
        rw [hdigits.2] at hrest
        refine ⟨⟨?_, fun c hc => List.mem_takeWhile_imp hc⟩, ?_⟩
        · intro hnil
          rw [hnil] at hdigits
          cases hdigits.1
        · rw [counted, hrest, List.append_assoc]
          rfl
      · cases h
    · cases h
  · rintro ⟨⟨hne, hdigits⟩, rfl⟩
    have hstart : counted word digits = (word.toList ++ ['(']) ++ (digits ++ [')']) := by
      rw [counted, List.append_assoc]
      rfl
    have htake : (digits ++ [')']).takeWhile Text.isAsciiDigit = digits := by
      rw [List.takeWhile_append_of_pos hdigits, List.takeWhile_cons_of_neg (by decide),
        List.append_nil]
    have hdrop : (digits ++ [')']).dropWhile Text.isAsciiDigit = [')'] := by
      rw [List.dropWhile_append_of_pos hdigits, List.dropWhile_cons_of_neg (by decide)]
    have hprefix : (word.toList ++ ['(']).isPrefixOf (counted word digits) = true :=
      List.isPrefixOf_iff_prefix.mpr ⟨_, hstart.symm⟩
    rw [counted?]
    dsimp only
    rw [if_pos hprefix, hstart, List.drop_left, htake, hdrop, if_pos]
    rw [beq_self_eq_true, Bool.and_true, Bool.not_eq_true', List.isEmpty_eq_false_iff]
    exact hne

theorem counted?_eq_none_iff {word : String} {m : Text} :
    counted? word m = none ↔ ∀ digits, IsDigits digits → m ≠ counted word digits := by
  constructor
  · intro h digits hdigits heq
    rw [counted?_eq_some_iff.mpr ⟨hdigits, heq⟩] at h
    cases h
  · intro h
    cases hc : counted? word m with
    | none => rfl
    | some digits =>
      obtain ⟨hdigits, heq⟩ := counted?_eq_some_iff.mp hc
      exact absurd heq (h digits hdigits)

theorem counted?_abbr_words (digits : Text) : counted? "abbr" (counted "words" digits) = none :=
  rfl

theorem stands_formatter (field m : Text) : Stands field m (formatter field m) := by
  rw [formatter]
  cases habbr : counted? "abbr" m with
  | some digits =>
    obtain ⟨hdigits, rfl⟩ := counted?_eq_some_iff.mp habbr
    exact .abbreviation hdigits
  | none =>
    have habbr := counted?_eq_none_iff.mp habbr
    cases hwords : counted? "words" m with
    | none => exact .itself habbr fun _ => counted?_eq_none_iff.mp hwords
    | some digits =>
      obtain ⟨hdigits, rfl⟩ := counted?_eq_some_iff.mp hwords
      dsimp only
      split
      · next htitle => exact .titleWords htitle hdigits
      · next htitle =>
        split
        · next hshort => exact .shortTitleWords hshort hdigits
        · next hshort => exact .itself habbr fun h => (h.elim htitle hshort).elim

theorem formatter_of_stands {field m f : Text} (h : Stands field m f) : formatter field m = f := by
  cases h with
  | abbreviation hdigits =>
    rw [formatter, counted?_eq_some_iff.mpr ⟨hdigits, rfl⟩]
  | titleWords htitle hdigits =>
    rw [formatter, counted?_abbr_words, counted?_eq_some_iff.mpr ⟨hdigits, rfl⟩]
    exact if_pos htitle
  | shortTitleWords hshort hdigits =>
    have htitle : field ≠ "title".toList := by
      rw [hshort]
      decide
    rw [formatter, counted?_abbr_words, counted?_eq_some_iff.mpr ⟨hdigits, rfl⟩]
    exact (if_neg htitle).trans (if_pos hshort)
  | itself habbr hwords =>
    rw [formatter, counted?_eq_none_iff.mpr habbr]
    cases hc : counted? "words" m with
    | none => rfl
    | some digits =>
      have hother : ¬(field = "title".toList ∨ field = "shorttitle".toList) := by
        intro hfield
        obtain ⟨hdigits, heq⟩ := counted?_eq_some_iff.mp hc
        exact hwords hfield digits hdigits heq
      rw [not_or] at hother
      exact (if_neg hother.1).trans (if_neg hother.2)

theorem forall₂_stands_iff {field : Text} {ms fs : List Text} :
    List.Forall₂ (Stands field) ms fs ↔ ms.map (formatter field) = fs := by
  constructor
  · intro h
    induction h with
    | nil => rfl
    | cons hm _ ih => rw [List.map_cons, formatter_of_stands hm, ih]
  · rintro rfl
    rw [List.forall₂_map_right_iff, List.forall₂_same]
    exact fun m _ => stands_formatter field m

end Group

/-- The node of a part. -/
def Part.node : Part → Node
  | .literal s => .text s
  | .group g => .var g.key g.formatters

theorem Part.means_iff {p : Part} {node : Node} : p.Means node ↔ p.node = node := by
  constructor
  · intro h
    cases h with
    | literal s => rfl
    | group hfield hfs =>
      subst hfield
      rw [Group.forall₂_stands_iff] at hfs
      subst hfs
      rfl
  · rintro rfl
    cases p with
    | literal s => exact .literal s
    | group g => exact .group rfl (Group.forall₂_stands_iff.mpr rfl)

theorem forall₂_means_iff {parts : List Part} {nodes : List Node} :
    List.Forall₂ Part.Means parts nodes ↔ parts.map Part.node = nodes := by
  constructor
  · intro h
    induction h with
    | nil => rfl
    | cons hp _ ih => rw [List.map_cons, Part.means_iff.mp hp, ih]
  · rintro rfl
    rw [List.forall₂_map_right_iff, List.forall₂_same]
    exact fun p _ => Part.means_iff.mpr rfl

namespace Group

theorem modifiers?_append {m : Text} (hm : ∀ c ∈ m, isModifierChar c = true) (w rest : Text) :
    modifiers? (some w) (m ++ rest) = modifiers? (some (m.reverse ++ w)) rest := by
  induction m generalizing w with
  | nil => rfl
  | cons c m ih =>
    have hc := hm c (List.mem_cons_self ..)
    rw [List.cons_append, modifiers?]
    rw [if_pos hc, ih (fun c' hc' => hm c' (List.mem_cons_of_mem c hc')), List.reverse_cons,
      List.append_assoc]
    rfl

theorem modifiers?_after {ms : List Text}
    (hms : ∀ m ∈ ms, m ≠ [] ∧ ∀ c ∈ m, isModifierChar c = true) {w : Text} (hw : w ≠ [])
    (rest : Text) :
    modifiers? (some w) (ms.flatMap (':' :: ·) ++ ']' :: rest) = some (w.reverse :: ms) := by
  have hempty : ¬w.isEmpty = true := fun h => hw (List.isEmpty_iff.mp h)
  -- By induction on the modifiers that follow; `w` is the one before them, read in reverse.
  induction ms generalizing w with
  | nil =>
    rw [List.flatMap_nil, List.nil_append, modifiers?]
    rw [if_neg (by decide), if_neg hempty]
    rfl
  | cons m ms ih =>
    obtain ⟨hne, hm⟩ := hms m (List.mem_cons_self ..)
    have hms := fun m' hm' => hms m' (List.mem_cons_of_mem m hm')
    have hrev : m.reverse ≠ [] := fun h => hne (List.reverse_eq_nil_iff.mp h)
    have ih := ih hms hrev fun h => hrev (List.isEmpty_iff.mp h)
    rw [List.flatMap_cons, List.cons_append, List.cons_append, List.append_assoc, modifiers?]
    rw [if_neg (by decide), if_neg hempty, if_neg (by decide), if_pos (by decide),
      modifiers?_append hm, List.append_nil, ih, List.reverse_reverse]
    rfl

theorem modifiers?_spelling {ms : List Text}
    (hms : ∀ m ∈ ms, m ≠ [] ∧ ∀ c ∈ m, isModifierChar c = true) (rest : Text) :
    modifiers? none (ms.flatMap (':' :: ·) ++ ']' :: rest) = some ms := by
  cases ms with
  | nil => rfl
  | cons m ms =>
    obtain ⟨hne, hm⟩ := hms m (List.mem_cons_self ..)
    have hms := fun m' hm' => hms m' (List.mem_cons_of_mem m hm')
    have hrev : m.reverse ≠ [] := fun h => hne (List.reverse_eq_nil_iff.mp h)
    rw [List.flatMap_cons, List.cons_append, List.cons_append, List.append_assoc, modifiers?]
    rw [if_neg (by decide), if_pos (by decide), modifiers?_append hm, List.append_nil,
      modifiers?_after hms hrev, List.reverse_reverse]

variable {g : Group}

theorem atStart?_spelling (h : g.IsWellFormed) (rest : Text) :
    atStart? (g.spelling ++ rest) = some g := by
  have hspelling : g.spelling ++ rest =
      '[' :: (g.field ++ (g.modifiers.flatMap (':' :: ·) ++ ']' :: rest)) := by
    simp only [spelling, List.cons_append, List.append_assoc, List.nil_append]
  -- The field ends before a colon or the closing bracket.
  have hend : ∃ c more, g.modifiers.flatMap (':' :: ·) ++ ']' :: rest = c :: more ∧
      Text.isAsciiWordChar c = false := by
    cases g.modifiers with
    | nil => exact ⟨']', rest, rfl, by decide⟩
    | cons m ms => exact ⟨':', _, rfl, by decide⟩
  obtain ⟨c, more, hmore, hc⟩ := hend
  have htake : (g.field ++ c :: more).takeWhile Text.isAsciiWordChar = g.field := by
    rw [List.takeWhile_append_of_pos h.isWord, List.takeWhile_cons_of_neg (by rw [hc]; decide),
      List.append_nil]
  have hdrop : (g.field ++ c :: more).dropWhile Text.isAsciiWordChar = c :: more := by
    rw [List.dropWhile_append_of_pos h.isWord, List.dropWhile_cons_of_neg (by rw [hc]; decide)]
  have hempty : ¬g.field.isEmpty = true := fun he => h.ne_nil (List.isEmpty_iff.mp he)
  rw [hspelling, hmore, atStart?, htake, if_neg hempty, hdrop, ← hmore,
    modifiers?_spelling h.areModifiers]
  rfl

end Group

theorem expandFrom_skip (passed rest : Text) :
    expandFrom passed.length (passed ++ rest) = expandFrom 0 rest := by
  induction passed with
  | nil => rfl
  | cons c passed ih => exact ih

theorem expandFrom_group {g : Group} (h : g.IsWellFormed) (rest : Text) :
    expandFrom 0 (g.spelling ++ rest) = g.tag ++ expandFrom 0 rest := by
  obtain ⟨passed, hpassed⟩ : ∃ passed, g.spelling = '[' :: passed := ⟨_, rfl⟩
  have hstart := Group.atStart?_spelling h rest
  rw [hpassed, List.cons_append] at hstart ⊢
  rw [expandFrom, hstart]
  show g.tag ++ expandFrom (g.spelling.length - 1) _ = _
  rw [hpassed, List.length_cons, Nat.add_sub_cancel, expandFrom_skip]

theorem expandFrom_literal {s : Text} (h : '[' ∉ s) (rest : Text) :
    expandFrom 0 (s ++ rest) = s ++ expandFrom 0 rest := by
  induction s with
  | nil => rfl
  | cons c s ih =>
    have hc : c ≠ '[' := fun hc => h (hc ▸ List.mem_cons_self ..)
    have hstart : Group.atStart? (c :: (s ++ rest)) = none := by
      rw [Group.atStart?]
      intro rest' heq
      cases heq
      exact hc rfl
    rw [List.cons_append, expandFrom, hstart]
    exact congrArg (c :: ·) (ih fun hs => h (List.mem_cons_of_mem c hs))

theorem expand_spelling {parts : List Part} (h : WellFormed parts) :
    expand (parts.flatMap Part.spelling) = Template.print (parts.map Part.node) := by
  rw [expand]
  induction h with
  | nil => rfl
  | @literal s parts hne hmark hnext hparts ih =>
    rw [List.flatMap_cons, Part.spelling, expandFrom_literal hmark.1, ih]
    rfl
  | @group g parts hg hparts ih =>
    rw [List.flatMap_cons, Part.spelling, expandFrom_group hg, ih]
    rfl

def isTagChar (c : Char) : Bool :=
  !Text.isBlank c && c != '}' && !Template.Token.endsKey c && c != '/' && c != '['

theorem isTagChar_of_isModifierChar {c : Char} (h : isModifierChar c = true) :
    isTagChar c = true := by
  have hascii : ∀ n < 128, isModifierChar (Char.ofNat n) = true →
      isTagChar (Char.ofNat n) = true := by
    decide +kernel
  refine Text.of_toNat_lt (P := fun c => isModifierChar c = true → isTagChar c = true) hascii ?_ h
  simp only [isModifierChar, Bool.or_eq_true, beq_iff_eq] at h
  obtain ((h | rfl) | rfl) | rfl := h
  · exact Text.toNat_lt_of_isAsciiAlphanumeric h
  · decide
  · decide
  · decide

theorem isTagChar_toLower {c : Char} (h : Text.isAsciiWordChar c = true) :
    isTagChar c.toLower = true := by
  have hascii : ∀ n < 128, Text.isAsciiWordChar (Char.ofNat n) = true →
      isTagChar (Char.ofNat n).toLower = true := by
    decide +kernel
  refine Text.of_toNat_lt (P := fun c => Text.isAsciiWordChar c = true → isTagChar c.toLower = true)
    hascii ?_ h
  simp only [Text.isAsciiWordChar, Bool.or_eq_true, beq_iff_eq] at h
  obtain h | rfl := h
  · exact Text.toNat_lt_of_isAsciiAlphanumeric h
  · decide

section
variable {s : Text}

theorem not_mem_of_areTagChars (h : ∀ c ∈ s, isTagChar c = true) {c : Char}
    (hc : isTagChar c = false) : c ∉ s := by
  intro hmem
  rw [h c hmem] at hc
  cases hc

theorem isName_of_areTagChars (hne : s ≠ []) (h : ∀ c ∈ s, isTagChar c = true) : IsName s := by
  have hblank : ∀ c ∈ s, Text.isBlank c = false := by
    intro c hc
    have hc := h c hc
    simp only [isTagChar, Bool.and_eq_true, Bool.not_eq_true'] at hc
    exact hc.1.1.1.1
  refine ⟨hne, Text.trim_eq_self (fun c hc => hblank c (List.mem_of_head? hc))
    (fun c hc => hblank c (List.mem_of_getLast? hc)), not_mem_of_areTagChars h rfl⟩

theorem isKey_of_areTagChars (hne : s ≠ []) (h : ∀ c ∈ s, isTagChar c = true) : IsKey s where
  toIsName := isName_of_areTagChars hne h
  noMark c hc := by
    have hc := h c hc
    simp only [isTagChar, Bool.and_eq_true, Bool.not_eq_true'] at hc
    exact hc.1.1.2
  noSlash hslash := not_mem_of_areTagChars h rfl (List.mem_of_head? hslash)

theorem isFormatter_of_areTagChars (hne : s ≠ []) (h : ∀ c ∈ s, isTagChar c = true) :
    IsFormatter s where
  toIsName := isName_of_areTagChars hne h
  noBar := not_mem_of_areTagChars h rfl

end

namespace Group

variable {g : Group}

theorem areTagChars_key (h : g.IsWellFormed) : g.key ≠ [] ∧ ∀ c ∈ g.key, isTagChar c = true := by
  have hne : g.name ≠ [] := fun hnil => h.ne_nil (List.map_eq_nil_iff.mp hnil)
  have hname : ∀ c ∈ g.name, isTagChar c = true := by
    intro c hc
    obtain ⟨d, hd, rfl⟩ := List.mem_map.mp hc
    exact isTagChar_toLower (h.isWord d hd)
  rw [key]
  split
  · exact ⟨by decide, List.all_eq_true.mp (by decide)⟩
  · exact ⟨hne, hname⟩

theorem isKey_key (h : g.IsWellFormed) : IsKey g.key :=
  isKey_of_areTagChars (areTagChars_key h).1 (areTagChars_key h).2

theorem areTagChars_formatter {m : Text} (hne : m ≠ []) (hm : ∀ c ∈ m, isModifierChar c = true)
    (field : Text) : formatter field m ≠ [] ∧ ∀ c ∈ formatter field m, isTagChar c = true := by
  have htag : ∀ c ∈ m, isTagChar c = true := fun c hc => isTagChar_of_isModifierChar (hm c hc)
  have hstands := stands_formatter field m
  generalize formatter field m = f at hstands
  cases hstands with
  | @abbreviation digits hdigits =>
    refine ⟨List.append_ne_nil_of_right_ne_nil _ hdigits.1, fun c hc => ?_⟩
    obtain hc | hc := List.mem_append.mp hc
    · have habbr : "abbr".toList.all isTagChar = true := by decide
      exact List.all_eq_true.mp habbr c hc
    · refine htag c ?_
      rw [counted]
      exact List.mem_append_right _ (List.mem_cons_of_mem _ (List.mem_append_left _ hc))
  | titleWords => exact ⟨by decide, List.all_eq_true.mp (by decide)⟩
  | shortTitleWords => exact ⟨by decide, List.all_eq_true.mp (by decide)⟩
  | itself => exact ⟨hne, htag⟩

theorem areTagChars_formatters (h : g.IsWellFormed) :
    ∀ f ∈ g.formatters, f ≠ [] ∧ ∀ c ∈ f, isTagChar c = true := by
  intro f hf
  obtain ⟨m, hm, rfl⟩ := List.mem_map.mp hf
  obtain ⟨hne, hchars⟩ := h.areModifiers m hm
  exact areTagChars_formatter hne hchars g.name

theorem areFormatters (h : g.IsWellFormed) : ∀ f ∈ g.formatters, IsFormatter f := by
  intro f hf
  obtain ⟨hne, hchars⟩ := areTagChars_formatters h f hf
  exact isFormatter_of_areTagChars hne hchars

end Group

theorem wellFormed_nodes {parts : List Part} (h : WellFormed parts) :
    Template.WellFormed (parts.map Part.node) := by
  induction h with
  | nil => exact .nil
  | @literal s parts hne hmark hnext _ ih =>
    refine .text hne hmark.2.2.1 ?_ ih
    cases parts with
    | nil => exact id
    | cons p parts =>
      cases p with
      | literal t => exact absurd trivial hnext
      | group g => exact id
  | group hg _ ih => exact .var (Group.isKey_key hg) (Group.areFormatters hg) ih

theorem depth_nodes (parts : List Part) : Template.depth (parts.map Part.node) = 0 := by
  induction parts with
  | nil => rw [List.map_nil, Template.depth]
  | cons p parts ih =>
    rw [List.map_cons, Template.depth, ih]
    cases p <;> rw [Part.node, Template.Node.depth, Nat.max_self]

/-- A template in the compact notation, expanded, is read as the nodes that its parts mean. -/
theorem parse_expand_iff {parts : List Part} (h : WellFormed parts) (nodes : List Node) :
    Template.parse (expand (parts.flatMap Part.spelling)) = .ok nodes ↔
      List.Forall₂ Part.Means parts nodes := by
  have hdepth : Template.depth (parts.map Part.node) ≤ Template.maxDepth := by
    rw [depth_nodes]
    exact Nat.zero_le _
  rw [expand_spelling h, Template.parse_print (wellFormed_nodes h) hdepth, forall₂_means_iff,
    Except.ok.injEq]

def mixedParts : List Part :=
  [.group ⟨"Auth".toList, ["abbr(3)".toList, "words(1)".toList]⟩, .literal ": ".toList,
    .group ⟨"TITLE".toList, ["words(12)".toList, "abbr(),(".toList]⟩,
    .group ⟨"short_title".toList, ["words(2)".toList]⟩]

def mixedNodes : List Node :=
  [.var "author".toList ["abbr3".toList, "words(1)".toList], .text ": ".toList,
    .var "title".toList ["titleword".toList, "abbr(),(".toList],
    .var "short_title".toList ["words(2)".toList]]

theorem wellFormed_mixedParts : WellFormed mixedParts := by
  have hauth : Group.IsWellFormed ⟨"Auth".toList, ["abbr(3)".toList, "words(1)".toList]⟩ := by
    decide
  have htitle : Group.IsWellFormed ⟨"TITLE".toList, ["words(12)".toList, "abbr(),(".toList]⟩ := by
    decide
  have hshort : Group.IsWellFormed ⟨"short_title".toList, ["words(2)".toList]⟩ := by decide
  exact .group hauth (.literal (by decide) (by decide) id (.group htitle (.group hshort .nil)))

theorem parse_expand_mixed :
    WellFormed mixedParts ∧
      Template.parse (expand
          "[Auth:abbr(3):words(1)]: [TITLE:words(12):abbr(),(][short_title:words(2)]".toList) =
        .ok mixedNodes :=
  ⟨wellFormed_mixedParts,
    (parse_expand_iff wellFormed_mixedParts mixedNodes).mpr (forall₂_means_iff.mpr rfl)⟩

end LitNote.Bracket
