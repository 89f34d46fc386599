import LitNote.Proofs.ArrayLiteral.Links
import LitNote.Proofs.Json.Length

/-!
Texts put between quotation marks as they are.  Main statements: they are what is read off the
literal if nothing in them has to be escaped; without commas in them the repair leaves them alone,
and then they are read off it only if nothing in them has to be escaped.
-/

namespace LitNote.ArrayLiteral

def inQuotes (s : Text) : Text := (Item.quoted s).spelling

/-- Texts in quotation marks with a comma between any two; there may be one after the last. -/
inductive Pasted (ts : List Text) : Text → Prop
  | joined : Pasted ts (Text.join [','] (ts.map inQuotes))
  | commaed : Pasted ts (commaed (ts.map inQuotes))

theorem Pasted.single (t : Text) : Pasted [t] (inQuotes t) := by
  have hjoined : Pasted [t] (Text.join [','] ([t].map inQuotes)) := .joined
  rwa [List.map_singleton, join_singleton] at hjoined

section
variable {ts : List Text} {s : Text}

theorem map_inQuotes (h : ∀ t ∈ ts, Json.IsPlainText t) :
    ts.map inQuotes = ts.map Json.writeText :=
  List.map_congr_left fun t ht => (Json.writeText_of_isPlain (h t ht)).symm

theorem spells_inQuotes (ts : List Text) :
    Spells (ts.map .quoted) (commaed (ts.map inQuotes)) := by
  induction ts with
  | nil => exact .blank Text.blank_nil
  | cons t ts ih =>
    rw [List.map_cons, List.map_cons, commaed_cons]
    exact .item (.refl _) ih

theorem sum_openings_quoted (ts : List Text) :
    ((ts.map Item.quoted).map Item.openings).sum = 0 := by
  induction ts with
  | nil => rfl
  | cons t ts ih =>
    rw [List.map_cons, List.map_cons, List.sum_cons, ih]
    rfl

theorem Pasted.normalize_of_isPlain (h : Pasted ts s) (hplain : ∀ t ∈ ts, Json.IsPlainText t) :
    normalize (bracketed s) = .ok (literalOf (ts.map Json.writeText)) := by
  cases h with
  | joined =>
    rw [map_inQuotes hplain]
    exact normalize_texts ts
  | commaed =>
    have hw : ∀ i ∈ ts.map Item.quoted, i.IsWellFormed := List.forall_mem_map.mpr hplain
    have hdeep : ¬IsDeep (bracketed (ArrayLiteral.commaed (ts.map inQuotes))) := fun hdeep => by
      have hle := (spells_inQuotes ts).le_of_isDeep hw hdeep
      rw [sum_openings_quoted] at hle
      exact absurd hle (by decide)
    have htexts : (ts.map Item.quoted).map Item.text = ts := by
      rw [List.map_map]
      exact List.map_id ts
    rw [(spells_inQuotes ts).normalize_eq hw hdeep, asTexts, htexts]

theorem inQuotes_append (s t : Text) :
    inQuotes s ++ ',' :: inQuotes t = inQuotes (s ++ '"' :: ',' :: '"' :: t) := by
  simp [inQuotes, Item.spelling]

theorem comma_not_mem_inQuotes (h : ',' ∉ s) : ',' ∉ inQuotes s := by
  simp [inQuotes, Item.spelling, h]

theorem exists_join_eq (hne : ts ≠ []) :
    ∃ x, Text.join [','] (ts.map inQuotes) = inQuotes x := by
  induction ts with
  | nil => exact absurd rfl hne
  | cons t ts ih =>
    by_cases hts : ts = []
    · rw [hts]
      exact ⟨t, join_singleton _⟩
    · obtain ⟨x, hx⟩ := ih hts
      have hne : ts.map inQuotes ≠ [] := fun hnil => hts (List.map_eq_nil_iff.mp hnil)
      rw [List.map_cons, Text.join_cons _ _ hne, hx]
      exact ⟨_, inQuotes_append t x⟩

theorem commaed_eq_join {ls : List Text} (hne : ls ≠ []) :
    commaed ls = Text.join [','] ls ++ [','] := by
  induction ls with
  | nil => exact absurd rfl hne
  | cons l ls ih =>
    by_cases hls : ls = []
    · rw [hls, join_singleton]
      exact List.append_nil _
    · rw [commaed_cons, ih hls, Text.join_cons _ _ hls]
      simp

theorem exists_splitItems_join (hne : ts ≠ []) (hcomma : ∀ t ∈ ts, ',' ∉ t) :
    ∃ x xs, splitItems (Text.join [','] (ts.map inQuotes)) = (x :: xs).map inQuotes ∧
      Text.join [','] ((x :: xs).map inQuotes) = Text.join [','] (ts.map inQuotes) := by
  -- By induction on the texts: each comma between them cuts or does not, and either way what is cut
  -- off is in quotation marks.
  induction ts with
  | nil => exact absurd rfl hne
  | cons t ts ih =>
    have ht := comma_not_mem_inQuotes (hcomma t (List.mem_cons_self ..))
    by_cases hts : ts = []
    · subst hts
      refine ⟨t, [], ?_, rfl⟩
      rw [List.map_singleton, join_singleton, splitItems_of_guarded (guarded_of_not_mem ht)]
    · obtain ⟨x, xs, hsplit, hjoin⟩ := ih hts fun u hu => hcomma u (List.mem_cons_of_mem t hu)
      have hne : ts.map inQuotes ≠ [] := fun hnil => hts (List.map_eq_nil_iff.mp hnil)
      have hcons : (x :: xs).map inQuotes ≠ [] := List.cons_ne_nil _ _
      rw [List.map_cons, Text.join_cons _ _ hne, List.singleton_append]
      -- The comma cuts exactly if the quotation marks after it come in pairs.
      by_cases heven : quoteCount (Text.join [','] (ts.map inQuotes)) % 2 = 0
      · refine ⟨t, x :: xs, ?_, ?_⟩
        · rw [splitItems_comma (guarded_of_not_mem ht) heven, hsplit, List.map_cons (l := x :: xs)]
        · rw [List.map_cons (l := x :: xs), Text.join_cons _ _ hcons, hjoin, List.singleton_append]
      · have hkeep : splitItems (',' :: Text.join [','] (ts.map inQuotes)) =
            (',' :: inQuotes x) :: xs.map inQuotes :=
          splitItems_keep (fun _ => by omega) hsplit
        refine ⟨t ++ '"' :: ',' :: '"' :: x, xs, ?_, ?_⟩
        · rw [splitItems_append_of_not_mem ht hkeep, inQuotes_append, List.map_cons]
        · rw [← hjoin, List.map_cons, List.map_cons, ← inQuotes_append]
          rw [Text.join_append_cons]
          exact congrArg (inQuotes t ++ ·) (Text.join_append_cons [','] [','] (inQuotes x) _)

theorem trim_inQuotes (x : Text) : Text.trim (inQuotes x) = inQuotes x :=
  (Item.quoted x).trim_spelling

theorem Pasted.items_eq (h : Pasted ts s) (hne : ts ≠ []) (hcomma : ∀ t ∈ ts, ',' ∉ t) :
    ∃ xs : List Text, items (bracketed s) = xs.map inQuotes ∧
      Text.join [','] (xs.map inQuotes) = Text.join [','] (ts.map inQuotes) := by
  obtain ⟨x, xs, hsplit, hjoin⟩ := exists_splitItems_join hne hcomma
  obtain ⟨y, hy⟩ := exists_join_eq hne
  have htrim : ((x :: xs).map inQuotes).map Text.trim = (x :: xs).map inQuotes := by
    rw [List.map_map]
    exact List.map_congr_left fun x _ => trim_inQuotes x
  have hfilter : ((x :: xs).map inQuotes).filter (!·.isEmpty) = (x :: xs).map inQuotes :=
    List.filter_eq_self.mpr (List.forall_mem_map.mpr fun x _ => rfl)
  refine ⟨x :: xs, ?_, hjoin⟩
  cases h with
  | joined =>
    have hcontent : Text.trim (Text.join [','] (ts.map inQuotes)) =
        Text.join [','] (ts.map inQuotes) := by rw [hy, trim_inQuotes]
    rw [items_bracketed, hcontent, hsplit, htrim, hfilter]
  | commaed =>
    have hls : ts.map inQuotes ≠ [] := fun hnil => hne (List.map_eq_nil_iff.mp hnil)
    have hcontent : Text.trim (Text.join [','] (ts.map inQuotes) ++ [',']) =
        Text.join [','] (ts.map inQuotes) ++ [','] := by
      rw [hy]
      exact Text.trim_of_ends rfl (by decide) List.getLast?_concat (by decide)
    have htrim_nil : Text.trim [] = [] := rfl
    rw [commaed_eq_join hls, items_bracketed, hcontent, splitItems_concat_comma, hsplit,
      List.map_append, htrim, List.filter_append, hfilter, List.map_singleton, htrim_nil]
    exact List.append_nil _

theorem Pasted.repair_eq (h : Pasted ts s) (hne : ts ≠ []) (hcomma : ∀ t ∈ ts, ',' ∉ t) :
    repair (bracketed s) = literalOf (ts.map inQuotes) := by
  obtain ⟨xs, hitems, hjoin⟩ := h.items_eq hne hcomma
  have hquote : (xs.map inQuotes).map quoteItem = xs.map inQuotes := by
    rw [List.map_map]
    exact List.map_congr_left fun x _ => Item.quoteItem_quoted x
  rw [ArrayLiteral.repair_eq, hitems, hquote, literalOf, hjoin, literalOf]

theorem Pasted.filter_ne_nil (h : Pasted ts s) (hne : ts ≠ []) :
    s.filter (!Text.isBlank ·) ≠ [] := by
  obtain ⟨x, hx⟩ := exists_join_eq hne
  have hhead : s.head? = some '"' := by
    cases h with
    | joined =>
      rw [hx]
      rfl
    | commaed =>
      rw [commaed_eq_join fun hnil => hne (List.map_eq_nil_iff.mp hnil), hx]
      rfl
  exact ArrayLiteral.filter_ne_nil hhead (by decide)

theorem Pasted.normalize_of_noComma {u : Text} (h : Pasted ts s) (hne : ts ≠ [])
    (hcomma : ∀ t ∈ ts, ',' ∉ t) (hu : normalize (bracketed s) = .ok u) :
    u = literalOf (ts.map inQuotes) := by
  have hfilter := h.filter_ne_nil hne
  cases hread : Json.read (bracketed s) with
  | error f =>
    rw [normalize_of_error hfilter hread, h.repair_eq hne hcomma] at hu
    split at hu
    · cases hu
    · cases hu
      rfl
  | ok v =>
    rw [normalize_of_read hread hfilter] at hu
    cases hu
    cases h with
    | joined => rfl
    | commaed =>
      -- With a comma before the closing bracket it would be no JSON.
      have happ : bracketed (ArrayLiteral.commaed (ts.map inQuotes)) =
          '[' :: (Text.join [','] (ts.map inQuotes) ++ ',' :: ([] ++ [']'])) := by
        rw [commaed_eq_join fun hnil => hne (List.map_eq_nil_iff.mp hnil)]
        simp [bracketed]
      rw [happ] at hread
      exact absurd hread (Json.read_comma_ne_ok Text.blank_nil v)

theorem length_commaed (ts : List Text) :
    (commaed (ts.map inQuotes)).length = Json.room ts := by
  induction ts with
  | nil => rfl
  | cons t ts ih =>
    have ht : (inQuotes t).length = t.length + 2 := by simp [inQuotes, Item.spelling]
    rw [List.map_cons, commaed_cons, List.length_append, List.length_cons, ih, ht, Json.room_cons]
    omega

theorem isPlainText_of_read
    (h : Json.read (literalOf (ts.map inQuotes)) = .ok (.list (ts.map .text))) :
    ∀ t ∈ ts, Json.IsPlainText t := by
  by_cases hne : ts = []
  · rw [hne]
    exact fun t ht => absurd ht List.not_mem_nil
  · have hls : ts.map inQuotes ≠ [] := fun hnil => hne (List.map_eq_nil_iff.mp hnil)
    have hlength := length_commaed ts
    rw [commaed_eq_join hls, List.length_append] at hlength
    refine Json.isPlainText_of_read h ?_
    rw [List.length_append]
    exact hlength.le

end

end LitNote.ArrayLiteral
