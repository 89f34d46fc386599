import LitNote.Proofs.ArrayLiteral.Depth
import LitNote.Proofs.ArrayLiteral.Repair
import Mathlib.Algebra.Ring.Nat
import Mathlib.Data.List.Basic

/-!
The items that templates write: strings in quotation marks and links without them, with blanks
around them and a comma after each.  Main statement: the repair makes a list of their texts of them,
unless links in it nest too deep to tell that they are no JSON.
-/

namespace LitNote.ArrayLiteral

inductive Item where
  | quoted (s : Text)
  | link (s : Text)

namespace Item

def text : Item → Text
  | quoted s => s
  | link s => '[' :: '[' :: (s ++ [']', ']'])

def spelling : Item → Text
  | quoted s => '"' :: (s ++ ['"'])
  | link s => '[' :: '[' :: (s ++ [']', ']'])

/-- No item has escapes and control characters.  Quotation marks stand in links only, in pairs, and
commas only between the two of a pair. -/
def IsWellFormed : Item → Prop
  | quoted s => Json.IsPlainText s
  | link s => (∀ c ∈ s, c ≠ '\\' ∧ 32 ≤ c.toNat) ∧ quoteCount s % 2 = 0 ∧ Guarded s

instance (i : Item) : Decidable i.IsWellFormed :=
  match i with
  | quoted s => inferInstanceAs (Decidable (Json.IsPlainText s))
  | link s =>
    haveI := List.decidableBAll (fun c => c ≠ '\\' ∧ 32 ≤ c.toNat) s
    inferInstanceAs (Decidable ((∀ c ∈ s, c ≠ '\\' ∧ 32 ≤ c.toNat) ∧
      quoteCount s % 2 = 0 ∧ Guarded s))

end Item

/-- Items with blanks around them and a comma after each; between them there may be empty ones. -/
inductive Spells : List Item → Text → Prop
  | blank {b : Text} : Text.Blank b → Spells [] b
  | item {i : Item} {is : List Item} {s t : Text} :
      Text.Padded i.spelling s → Spells is t → Spells (i :: is) (s ++ ',' :: t)
  | empty {is : List Item} {b t : Text} : Text.Blank b → Spells is t → Spells is (b ++ ',' :: t)

section
variable {b s t : Text}

theorem not_mem_of_blank (hb : Text.Blank b) {c : Char} (hc : Text.isBlank c = false) : c ∉ b := by
  intro hmem
  rw [hb c hmem] at hc
  cases hc

theorem quoteCount_of_blank (hb : Text.Blank b) : quoteCount b = 0 :=
  quoteCount_of_not_mem (not_mem_of_blank hb (by decide))

theorem quoteCount_append_blank (hb : Text.Blank b) (s : Text) :
    quoteCount (s ++ b) = quoteCount s := by
  rw [quoteCount_append, quoteCount_of_blank hb, Nat.add_zero]

theorem guarded_of_blank (hb : Text.Blank b) : Guarded b :=
  guarded_of_not_mem (not_mem_of_blank hb (by decide))

theorem quoteCount_of_padded (h : Text.Padded s t) : quoteCount t = quoteCount s := by
  obtain ⟨a, b, ha, hb, rfl⟩ := h
  rw [quoteCount_append_blank hb, quoteCount_append, quoteCount_of_blank ha, Nat.zero_add]

theorem guarded_of_padded (h : Text.Padded s t) (heven : quoteCount s % 2 = 0) (hs : Guarded s) :
    Guarded t := by
  obtain ⟨a, b, ha, hb, rfl⟩ := h
  have hend : quoteCount b % 2 = 0 := by rw [quoteCount_of_blank hb]
  have hstart : Guarded (a ++ s) := guarded_append heven (guarded_of_blank ha) hs
  exact guarded_append hend hstart (guarded_of_blank hb)

theorem splitItems_append_end (hb : Text.Blank b) (s : Text) :
    ∃ items last, splitItems s = items ++ [last] ∧ splitItems (s ++ b) = items ++ [last ++ b] := by
  induction s with
  | nil => exact ⟨[], [], rfl, splitItems_of_guarded (guarded_of_blank hb)⟩
  | cons c s ih =>
    obtain ⟨items, last, hs, hsb⟩ := ih
    have hcount := quoteCount_append_blank hb s
    by_cases hcut : c = ',' ∧ quoteCount s % 2 = 0
    · obtain ⟨rfl, heven⟩ := hcut
      refine ⟨[] :: items, last, ?_, ?_⟩
      · rw [splitItems_cut heven, hs, List.cons_append]
      · rw [List.cons_append, splitItems_cut (by rw [hcount, heven]), hsb, List.cons_append]
    · have hodd : c = ',' → quoteCount s % 2 = 1 := fun hc => by
        have hne : ¬quoteCount s % 2 = 0 := fun heven => hcut ⟨hc, heven⟩
        omega
      have hodd' : c = ',' → quoteCount (s ++ b) % 2 = 1 := by rwa [hcount]
      cases items with
      | nil => exact ⟨[], c :: last, splitItems_keep hodd hs, splitItems_keep hodd' hsb⟩
      | cons item items =>
        exact ⟨(c :: item) :: items, last, splitItems_keep hodd hs, splitItems_keep hodd' hsb⟩

theorem map_trim_splitItems (h : Text.Padded s t) (heven : quoteCount s % 2 = 0) :
    (splitItems t).map Text.trim = (splitItems s).map Text.trim := by
  obtain ⟨a, b, ha, hb, rfl⟩ := h
  obtain ⟨items, last, hs, hsb⟩ := splitItems_append_end hb s
  have hlast : Text.trim (last ++ b) = Text.trim last :=
    Text.trim_padded ⟨[], b, Text.blank_nil, hb, rfl⟩
  have hend : (splitItems (s ++ b)).map Text.trim = (splitItems s).map Text.trim := by
    rw [hs, hsb, List.map_append, List.map_append, List.map_singleton, List.map_singleton, hlast]
  have hcount : quoteCount (s ++ b) % 2 = 0 := by
    rw [quoteCount_append_blank hb, heven]
  obtain ⟨item, items', hitems⟩ := List.exists_cons_of_ne_nil (splitItems_ne_nil (s ++ b))
  have hitem : Text.trim (a ++ item) = Text.trim item :=
    Text.trim_padded ⟨a, [], ha, Text.blank_nil, (List.append_nil _).symm⟩
  rw [← hend, List.append_assoc, splitItems_append (guarded_of_blank ha) hcount hitems, hitems,
    List.map_cons, List.map_cons, hitem]

end

namespace Item

variable {i : Item}

theorem quoteCount_quoted (s : Text) : quoteCount (quoted s).spelling = quoteCount s + 2 := by
  simp [spelling, quoteCount, List.count_append]

theorem quoteCount_spelling (h : i.IsWellFormed) : quoteCount i.spelling % 2 = 0 := by
  cases i with
  | quoted s =>
    have hs : quoteCount s = 0 := quoteCount_of_not_mem (Json.IsPlainText.noQuote h)
    rw [quoteCount_quoted, hs]
  | link s =>
    have hcount : quoteCount ('[' :: '[' :: (s ++ [']', ']'])) = quoteCount s := by
      simp [quoteCount, List.count_append]
    rw [spelling, hcount, h.2.1]

theorem guarded_spelling (h : i.IsWellFormed) : Guarded i.spelling := by
  cases i with
  | quoted s =>
    have hs : '"' ∉ s := Json.IsPlainText.noQuote h
    refine guarded_cons (by decide) ?_
    clear h
    induction s with
    | nil => exact guarded_of_not_mem (by decide)
    | cons c s ih =>
      rw [List.mem_cons, not_or] at hs
      refine ⟨fun _ => ?_, ih hs.2⟩
      have hcount := quoteCount_append s ['"']
      rw [quoteCount_of_not_mem hs.2] at hcount
      exact congrArg (· % 2) hcount
  | link s =>
    have hend : Guarded [']', ']'] := guarded_of_not_mem (by decide)
    exact guarded_cons (by decide) (guarded_cons (by decide) (guarded_append rfl h.2.2 hend))

theorem spelling_ne_nil (i : Item) : i.spelling ≠ [] := by
  cases i with
  | quoted s => exact List.cons_ne_nil _ _
  | link s => exact List.cons_ne_nil _ _

theorem trim_spelling (i : Item) : Text.trim i.spelling = i.spelling := by
  cases i with
  | quoted s =>
    have hlast : (quoted s).spelling.getLast? = some '"' := by
      rw [spelling, ← List.cons_append, List.getLast?_concat]
    exact Text.trim_of_ends rfl (by decide) hlast (by decide)
  | link s =>
    have hlast : (link s).spelling.getLast? = some ']' := by
      have happ : (link s).spelling = ('[' :: '[' :: (s ++ [']'])) ++ [']'] := by simp [spelling]
      rw [happ, List.getLast?_concat]
    exact Text.trim_of_ends rfl (by decide) hlast (by decide)

theorem isLink_link (s : Text) : isLink (link s).spelling = true := by
  have hopen : Text.contains ['[', '['] ('[' :: '[' :: (s ++ [']', ']'])) = true :=
    Text.contains_self_append (List.cons_ne_nil _ _) _
  have hclose : Text.contains [']', ']'] ('[' :: '[' :: (s ++ [']', ']'])) = true :=
    Text.contains_append_right ('[' :: '[' :: s) rfl
  rw [isLink, spelling, hopen, hclose, Bool.and_self]

theorem writeText_eq {s : Text} (h : ∀ c ∈ s, c ≠ '\\' ∧ 32 ≤ c.toNat) :
    Json.writeText s = '"' :: Text.replaceAll ['"'] ['\\', '"'] s ++ ['"'] := by
  have hchars : s.flatMap Json.writeChar = Text.replaceAll ['"'] ['\\', '"'] s := by
    rw [Text.replaceAll_char]
    refine List.flatMap_congr fun c hc => ?_
    by_cases hquote : c = '"'
    · rw [hquote]
      rfl
    · rw [beq_false_of_ne hquote, if_neg Bool.false_ne_true]
      exact Json.writeChar_of_isPlain ⟨hquote, h c hc⟩
  rw [Json.writeText, hchars]

theorem isQuoted_quoted (s : Text) : isQuoted (quoted s).spelling = true := by
  have hlast : (quoted s).spelling.getLast? = some '"' := by
    rw [spelling, ← List.cons_append, List.getLast?_concat]
  rw [isQuoted, hlast]
  rfl

theorem quoteItem_quoted (s : Text) : quoteItem (quoted s).spelling = (quoted s).spelling := by
  rw [quoteItem, if_pos (isQuoted_quoted s)]

theorem quoteItem_spelling (h : i.IsWellFormed) : quoteItem i.spelling = Json.writeText i.text := by
  cases i with
  | quoted s =>
    rw [quoteItem_quoted]
    exact (Json.writeText_of_isPlain h).symm
  | link s =>
    have hchars : ∀ c ∈ text (link s), c ≠ '\\' ∧ 32 ≤ c.toNat := by
      intro c hc
      simp only [text, List.mem_cons, List.mem_append, List.not_mem_nil, or_false] at hc
      obtain rfl | rfl | hc | rfl | rfl := hc
      · decide
      · decide
      · exact h.1 c hc
      · decide
      · decide
    rw [quoteItem, isLink_link, if_pos rfl, writeText_eq hchars]
    rfl

end Item

section
variable {is : List Item} {t : Text}

theorem Spells.quoteCount_even (h : Spells is t) (hw : ∀ i ∈ is, i.IsWellFormed) :
    quoteCount t % 2 = 0 := by
  induction h with
  | blank hb => rw [quoteCount_of_blank hb]
  | @item i is s t hs _ ih =>
    have hcount := quoteCount_append_comma s t
    have hi := Item.quoteCount_spelling (hw i (List.mem_cons_self ..))
    have ht := ih fun j hj => hw j (List.mem_cons_of_mem i hj)
    rw [quoteCount_of_padded hs] at hcount
    omega
  | @empty is b t hb _ ih =>
    rw [quoteCount_append_comma, quoteCount_of_blank hb, Nat.zero_add, ih hw]

theorem Spells.splitItems_eq (h : Spells is t) (hw : ∀ i ∈ is, i.IsWellFormed) :
    ((splitItems t).map Text.trim).filter (!·.isEmpty) = is.map Item.spelling := by
  have hblank {b : Text} (hb : Text.Blank b) : Text.trim b = [] :=
    Text.trim_eq_nil_iff.mpr (List.all_eq_true.mpr hb)
  -- By induction on the items: a cut comes after each of them and nowhere else.
  induction h with
  | @blank b hb =>
    rw [splitItems_of_guarded (guarded_of_blank hb), List.map_singleton, hblank hb]
    rfl
  | @item i is s t hs ht ih =>
    have hi := hw i (List.mem_cons_self ..)
    have hw' : ∀ j ∈ is, j.IsWellFormed := fun j hj => hw j (List.mem_cons_of_mem i hj)
    have hguarded : Guarded s :=
      guarded_of_padded hs (Item.quoteCount_spelling hi) (Item.guarded_spelling hi)
    have htrim : Text.trim s = i.spelling := by rw [Text.trim_padded hs, i.trim_spelling]
    have hne : (!i.spelling.isEmpty) = true := by simp [i.spelling_ne_nil]
    rw [splitItems_comma hguarded (ht.quoteCount_even hw'), List.map_cons, htrim,
      List.filter_cons, hne, if_pos rfl, ih hw', List.map_cons]
  | @empty is b t hb ht ih =>
    rw [splitItems_comma (guarded_of_blank hb) (ht.quoteCount_even hw), List.map_cons, hblank hb,
      List.filter_cons_of_neg (by simp), ih hw]

theorem Spells.items_eq (h : Spells is t) (hw : ∀ i ∈ is, i.IsWellFormed) :
    items (bracketed t) = is.map Item.spelling := by
  have hpadded := Text.padded_trim t
  have heven : quoteCount (Text.trim t) % 2 = 0 := by
    rw [← quoteCount_of_padded hpadded, h.quoteCount_even hw]
  rw [items_bracketed, ← map_trim_splitItems hpadded heven, h.splitItems_eq hw]

def asTexts (is : List Item) : Text := literalOf ((is.map Item.text).map Json.writeText)

theorem Spells.repair_eq (h : Spells is t) (hw : ∀ i ∈ is, i.IsWellFormed) :
    repair (bracketed t) = asTexts is := by
  rw [ArrayLiteral.repair_eq, h.items_eq hw, asTexts, List.map_map, List.map_map]
  exact congrArg literalOf (List.map_congr_left fun i hi => Item.quoteItem_spelling (hw i hi))

theorem Spells.blank_or_comma (h : Spells is t) :
    (Text.Blank t ∧ is = []) ∨ ∃ x b, Text.Blank b ∧ t = x ++ ',' :: b := by
  have hlater (s : Text) {is : List Item} {t : Text}
      (ih : (Text.Blank t ∧ is = []) ∨ ∃ x b, Text.Blank b ∧ t = x ++ ',' :: b) :
      ∃ x b, Text.Blank b ∧ s ++ ',' :: t = x ++ ',' :: b := by
    obtain ⟨ht, -⟩ | ⟨x, b, hb, rfl⟩ := ih
    · exact ⟨s, t, ht, rfl⟩
    · exact ⟨s ++ ',' :: x, b, hb, by simp⟩
  induction h with
  | blank hb => exact .inl ⟨hb, rfl⟩
  | @item i is s t _ _ ih => exact .inr (hlater s ih)
  | @empty is b t _ _ ih => exact .inr (hlater b ih)

theorem normalize_of_comma {x b : Text} (hb : Text.Blank b)
    (hdeep : ¬IsDeep (bracketed (x ++ ',' :: b))) :
    normalize (bracketed (x ++ ',' :: b)) = .ok (repair (bracketed (x ++ ',' :: b))) := by
  have hne : (x ++ ',' :: b).filter (!Text.isBlank ·) ≠ [] := by
    have hcomma : ',' ∈ (x ++ ',' :: b).filter (!Text.isBlank ·) := by
      rw [List.mem_filter]
      exact ⟨by simp, by decide⟩
    exact List.ne_nil_of_mem hcomma
  have happ : bracketed (x ++ ',' :: b) = '[' :: (x ++ ',' :: (b ++ [']'])) := by
    simp [bracketed]
  cases hread : Json.read (bracketed (x ++ ',' :: b)) with
  | ok v =>
    rw [happ] at hread
    exact absurd hread (Json.read_comma_ne_ok hb v)
  | error f =>
    have hcause : f.cause ≠ .tooDeep := fun hcause => hdeep (by
      rw [IsDeep, trim_bracketed]
      exact ⟨isTemplate_bracketed _, f, hread, hcause⟩)
    rw [normalize_of_error hne hread, if_neg hcause]

theorem Spells.normalize_eq (h : Spells is t) (hw : ∀ i ∈ is, i.IsWellFormed)
    (hdeep : ¬IsDeep (bracketed t)) : normalize (bracketed t) = .ok (asTexts is) := by
  obtain ⟨hblank, rfl⟩ | ⟨x, b, hb, rfl⟩ := h.blank_or_comma
  · exact normalize_of_blank (List.filter_eq_nil_iff.mpr fun c hc => by simp [hblank c hc])
  · rw [normalize_of_comma hb hdeep, h.repair_eq hw]

end

section
variable {s t : Text}

theorem bareOpenings_le_countP (s : Text) : Json.bareOpenings s ≤ s.countP Json.isOpening := by
  induction s with
  | nil => exact Nat.le_refl 0
  | cons c s ih =>
    rw [Json.bareOpenings, List.countP_cons]
    cases Json.isOpening c with
    | false => simpa using ih
    | true => split <;> simp <;> omega

theorem bareOpenings_append (ht : quoteCount t % 2 = 0) (s : Text) :
    Json.bareOpenings (s ++ t) = Json.bareOpenings s + Json.bareOpenings t := by
  induction s with
  | nil => exact (Nat.zero_add _).symm
  | cons c s ih =>
    have hcount : (s ++ t).count '"' % 2 = s.count '"' % 2 := by
      have happ : (s ++ t).count '"' = s.count '"' + quoteCount t := List.count_append
      omega
    rw [List.cons_append, Json.bareOpenings, Json.bareOpenings, hcount, ih, Nat.add_assoc]

theorem bareOpenings_of_blank {b : Text} (hb : Text.Blank b) : Json.bareOpenings b = 0 := by
  have hcount : b.countP Json.isOpening = 0 := List.countP_eq_zero.mpr fun c hc hopen => by
    simp only [Json.isOpening, Bool.or_eq_true, beq_iff_eq] at hopen
    obtain rfl | rfl := hopen
    · exact not_mem_of_blank hb (by decide) hc
    · exact not_mem_of_blank hb (by decide) hc
  have hle := bareOpenings_le_countP b
  omega

theorem bareOpenings_of_padded (h : Text.Padded s t) (hs : quoteCount s % 2 = 0) :
    Json.bareOpenings t = Json.bareOpenings s := by
  obtain ⟨a, b, ha, hb, rfl⟩ := h
  have heven : quoteCount b % 2 = 0 := by rw [quoteCount_of_blank hb]
  rw [bareOpenings_append heven, bareOpenings_append hs, bareOpenings_of_blank ha,
    bareOpenings_of_blank hb, Nat.zero_add, Nat.add_zero]

end

namespace Item

variable {i : Item}

def openings : Item → Nat
  | quoted _ => 0
  | link s => s.countP Json.isOpening + 2

theorem bareOpenings_spelling (h : i.IsWellFormed) :
    Json.bareOpenings i.spelling ≤ i.openings := by
  cases i with
  | quoted s =>
    have hs : '"' ∉ s := Json.IsPlainText.noQuote h
    have hstring : Json.bareOpenings (s ++ ['"']) = 0 := by
      clear h
      induction s with
      | nil => rfl
      | cons c s ih =>
        rw [List.mem_cons, not_or] at hs
        have hcount : (s ++ ['"']).count '"' = 1 := by
          rw [List.count_append, List.count_eq_zero.mpr hs.2]
          rfl
        rw [List.cons_append, Json.bareOpenings, hcount, ih hs.2]
        simp
    rw [spelling, Json.bareOpenings, hstring]
    exact Nat.le_refl 0
  | link s =>
    have hcount : (spelling (link s)).countP Json.isOpening = openings (link s) := by
      simp [spelling, openings, Json.isOpening, List.countP_append]
    exact hcount ▸ bareOpenings_le_countP _

theorem no_escape (h : i.IsWellFormed) : '\\' ∉ i.spelling := by
  intro hmem
  cases i with
  | quoted s =>
    simp only [spelling, List.mem_cons, List.mem_append, List.not_mem_nil, or_false] at hmem
    obtain hc | hc | hc := hmem
    · cases hc
    · exact (h _ hc).2.1 rfl
    · cases hc
  | link s =>
    simp only [spelling, List.mem_cons, List.mem_append, List.not_mem_nil, or_false] at hmem
    obtain hc | hc | hc | hc | hc := hmem
    · cases hc
    · cases hc
    · exact (h.1 _ hc).1 rfl
    · cases hc
    · cases hc

end Item

section
variable {is : List Item} {t : Text}

theorem Spells.no_escape (h : Spells is t) (hw : ∀ i ∈ is, i.IsWellFormed) : '\\' ∉ t := by
  induction h with
  | blank hb => exact not_mem_of_blank hb (by decide)
  | @item i is s t hs _ ih =>
    have hi := Item.no_escape (hw i (List.mem_cons_self ..))
    rw [List.mem_append, List.mem_cons, not_or, not_or]
    exact ⟨hs.not_mem (by decide) hi, by decide, ih fun j hj => hw j (List.mem_cons_of_mem i hj)⟩
  | @empty is b t hb _ ih =>
    rw [List.mem_append, List.mem_cons, not_or, not_or]
    exact ⟨not_mem_of_blank hb (by decide), by decide, ih hw⟩

theorem Spells.bareOpenings_le (h : Spells is t) (hw : ∀ i ∈ is, i.IsWellFormed) :
    Json.bareOpenings t ≤ (is.map Item.openings).sum := by
  induction h with
  | blank hb => rw [bareOpenings_of_blank hb]; exact Nat.zero_le _
  | @item i is s t hs ht ih =>
    have hi := hw i (List.mem_cons_self ..)
    have hw' : ∀ j ∈ is, j.IsWellFormed := fun j hj => hw j (List.mem_cons_of_mem i hj)
    have heven : quoteCount (',' :: t) % 2 = 0 := ht.quoteCount_even hw'
    have hcomma : Json.bareOpenings (',' :: t) = Json.bareOpenings t := Nat.zero_add _
    rw [bareOpenings_append heven, bareOpenings_of_padded hs (Item.quoteCount_spelling hi), hcomma,
      List.map_cons, List.sum_cons]
    exact Nat.add_le_add (Item.bareOpenings_spelling hi) (ih hw')
  | @empty is b t hb ht ih =>
    have heven : quoteCount (',' :: t) % 2 = 0 := ht.quoteCount_even hw
    have hcomma : Json.bareOpenings (',' :: t) = Json.bareOpenings t := Nat.zero_add _
    rw [bareOpenings_append heven, bareOpenings_of_blank hb, Nat.zero_add, hcomma]
    exact ih hw

theorem Spells.le_of_isDeep (h : Spells is t) (hw : ∀ i ∈ is, i.IsWellFormed)
    (hdeep : IsDeep (bracketed t)) : Json.maxDepth ≤ (is.map Item.openings).sum := by
  have hescape : '\\' ∉ bracketed t := by
    simp [bracketed, h.no_escape hw]
  have heven : (bracketed t).count '"' % 2 = 0 := by
    have hcount : (bracketed t).count '"' = quoteCount t := by
      simp [bracketed, quoteCount, List.count_append]
    rw [hcount, h.quoteCount_even hw]
  have hread := hdeep.2
  rw [trim_bracketed] at hread
  have hlt := Json.lt_of_tooDeep_read Json.counts_bareOpenings ⟨hescape, heven⟩ hread
  have hbare : Json.bareOpenings (bracketed t) ≤ 1 + Json.bareOpenings t := by
    have hend : Json.bareOpenings (t ++ [']']) = Json.bareOpenings t := bareOpenings_append rfl t
    rw [bracketed, Json.bareOpenings, hend]
    split <;> omega
  have hle := h.bareOpenings_le hw
  omega

/-- A literal of such items becomes the list of their texts.  It fails only where it nests too deep,
and that takes as many brackets in links. -/
theorem normalize_of_spells (hw : ∀ i ∈ is, i.IsWellFormed) (h : Spells is t) :
    (¬IsDeep (bracketed t) → ∃ u, normalize (bracketed t) = .ok u ∧
      Json.read u = .ok (.list ((is.map Item.text).map .text))) ∧
    (IsDeep (bracketed t) → normalize (bracketed t) = .error .tooDeep ∧
      Json.maxDepth ≤ (is.map Item.openings).sum) :=
  ⟨fun hdeep => ⟨asTexts is, h.normalize_eq hw hdeep, read_texts _⟩,
    fun hdeep => ⟨normalize_eq_error_iff.mpr ⟨rfl, hdeep⟩, h.le_of_isDeep hw hdeep⟩⟩

end

def mixedItems : List Item := [.quoted "a, [b]".toList, .link "c \"d, e\" f".toList]

def mixedContent : Text := " \"a, [b]\"\t, ,[[c \"d, e\" f]],".toList

theorem wellFormed_mixedItems : ∀ i ∈ mixedItems, i.IsWellFormed := by
  intro i hi
  simp only [mixedItems, List.mem_cons, List.not_mem_nil, or_false] at hi
  obtain rfl | rfl := hi
  · decide
  · decide

theorem normalize_of_spells_mixed : ∃ u, normalize (bracketed mixedContent) = .ok u ∧
    Json.read u = .ok (.list [.text "a, [b]".toList, .text "[[c \"d, e\" f]]".toList]) := by
  have hspells : Spells mixedItems mixedContent :=
    .item ⟨[' '], ['\t'], by decide, by decide, rfl⟩ (.empty (b := [' ']) (by decide)
      (.item (.refl _) (.blank Text.blank_nil)))
  have hdeep : ¬IsDeep (bracketed mixedContent) := fun hdeep =>
    absurd (hspells.le_of_isDeep wellFormed_mixedItems hdeep) (by decide)
  exact (normalize_of_spells wellFormed_mixedItems hspells).1 hdeep

def bracketLink (n : Nat) : Item := .link (List.replicate n '[')

theorem isWellFormed_bracketLink (n : Nat) : (bracketLink n).IsWellFormed := by
  have hnone {c : Char} (hc : c ≠ '[') : c ∉ List.replicate n '[' :=
    fun hmem => hc (List.eq_of_mem_replicate hmem)
  refine ⟨fun c hc => ?_, ?_, guarded_of_not_mem (hnone (by decide))⟩
  · rw [List.eq_of_mem_replicate hc]
    decide
  · rw [quoteCount_of_not_mem (hnone (by decide))]

theorem isDeep_bracketLink {n : Nat} (hn : Json.maxDepth < n + 3) :
    IsDeep (bracketed ((bracketLink n).spelling ++ [','])) := by
  have happ : bracketed ((bracketLink n).spelling ++ [',']) =
      List.replicate (n + 3) '[' ++ [']', ']', ',', ']'] := by
    simp [bracketed, bracketLink, Item.spelling, List.replicate_succ]
  rw [IsDeep, trim_bracketed]
  refine ⟨isTemplate_bracketed _, ?_⟩
  rw [happ]
  exact Json.tooDeep_read_replicate hn _

theorem normalize_bracketLink :
    (bracketLink 5000).IsWellFormed ∧
      Spells [bracketLink 5000] ((bracketLink 5000).spelling ++ [',']) ∧
      normalize (bracketed ((bracketLink 5000).spelling ++ [','])) = .error .tooDeep :=
  ⟨isWellFormed_bracketLink 5000, .item (.refl _) (.blank Text.blank_nil),
    normalize_eq_error_iff.mpr ⟨rfl, isDeep_bracketLink (Stack.room_lt (by decide))⟩⟩

end LitNote.ArrayLiteral
