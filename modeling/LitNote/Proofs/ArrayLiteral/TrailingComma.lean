import LitNote.Proofs.ArrayLiteral.Pieces
import LitNote.Proofs.Json.Length

/-!
Lists of texts with a comma too many.  Main statement: the repair takes the comma away, and the
texts are read off what is left exactly if every piece between two cuts stays.  That is so if after
every comma within a text the quotation marks come in pairs.
-/

namespace LitNote.ArrayLiteral

variable {xs : List Text}

def trailing (xs : List Text) : Text := commaed (xs.map Json.writeText)

theorem trailing_cons (x : Text) (xs : List Text) :
    trailing (x :: xs) = Json.writeText x ++ ',' :: trailing xs := commaed_cons ..

theorem trailing_eq_join (hne : xs ≠ []) :
    trailing xs = Text.join [','] (xs.map Json.writeText) ++ [','] :=
  commaed_eq_join fun hnil => hne (List.map_eq_nil_iff.mp hnil)

theorem trim_trailing (xs : List Text) : Text.trim (trailing xs) = trailing xs := by
  cases xs with
  | nil => rfl
  | cons x xs =>
    have hlast : (trailing (x :: xs)).getLast? = some ',' := by
      rw [trailing_eq_join (List.cons_ne_nil x xs), List.getLast?_concat]
    exact Text.trim_of_ends rfl (by decide) hlast (by decide)

theorem quoteCount_writeText (x : Text) : quoteCount (Json.writeText x) = quoteCount x + 2 := by
  have hchars : quoteCount (x.flatMap Json.writeChar) = quoteCount x :=
    Json.count_quote_writeChars x
  rw [← hchars]
  exact Item.quoteCount_quoted (x.flatMap Json.writeChar)

theorem quoteCount_trailing_cons (x : Text) (xs : List Text) :
    quoteCount (trailing (x :: xs)) = quoteCount x + 2 + quoteCount (trailing xs) := by
  rw [trailing_cons, quoteCount_append_comma, quoteCount_writeText]

theorem quoteCount_trailing (xs : List Text) :
    quoteCount (trailing xs) = Json.writtenQuotes xs := by
  induction xs with
  | nil => rfl
  | cons x xs ih =>
    rw [quoteCount_trailing_cons, Json.writtenQuotes_cons, ih]
    rfl

theorem length_trailing (xs : List Text) : (trailing xs).length = Json.writtenLength xs := by
  induction xs with
  | nil => rfl
  | cons x xs ih =>
    rw [trailing_cons, List.length_append, List.length_cons, ih, Json.writtenLength_cons]
    omega

theorem skipSpace_trailing (xs : List Text) :
    Json.skipSpace (trailing xs ++ [']']) = trailing xs ++ [']'] := by
  cases xs with
  | nil => rfl
  | cons x xs =>
    rw [trailing_cons]
    exact Json.skipSpace_cons (by decide) _

theorem readValue_trailing_cons (n : Nat) (x : Text) (xs : List Text) :
    Json.readValue n (trailing (x :: xs) ++ [']']) =
      .ok (.text x, ',' :: (trailing xs ++ [']'])) := by
  rw [trailing_cons, List.append_assoc, Json.readValue_writeText, List.cons_append]

theorem readValue_close (n : Nat) : Json.readValue n [']'] = Json.fail .noValue [']'] := by
  cases n <;> rfl

theorem not_tooDeep_readItems_trailing (n fuel : Nat) (xs : List Text) :
    ¬Json.TooDeep (Json.readItems (Json.readValue n) fuel (trailing xs ++ [']'])) := by
  intro h
  have hnext : ∀ u v after rest, (∃ ys, u = trailing ys ++ [']']) →
      Json.readValue n u = .ok (v, after) → Json.skipSpace after = ',' :: rest →
      ∃ ys, Json.skipSpace rest = trailing ys ++ [']'] := by
    rintro _ v after rest ⟨ys, rfl⟩ hv hrest
    cases ys with
    | nil =>
      have hclose := (readValue_close n).symm.trans hv
      cases hclose
    | cons y ys =>
      rw [readValue_trailing_cons] at hv
      cases hv
      cases (Json.skipSpace_cons (by decide) _).symm.trans hrest
      exact ⟨ys, skipSpace_trailing ys⟩
  obtain ⟨_, ⟨ys, rfl⟩, hdeep⟩ := Json.exists_tooDeep_of_readItems hnext ⟨xs, rfl⟩ h
  cases ys with
  | nil =>
    have hclose : Json.readValue n (trailing [] ++ [']']) = Json.fail .noValue [']'] :=
      readValue_close n
    rw [hclose] at hdeep
    exact Json.not_tooDeep_fail (by decide) _ hdeep
  | cons y ys =>
    rw [readValue_trailing_cons] at hdeep
    exact Json.not_tooDeep_ok _ hdeep

theorem not_isDeep_trailing (xs : List Text) : ¬IsDeep (bracketed (trailing xs)) := by
  rintro ⟨-, hdeep⟩
  rw [trim_bracketed, Json.tooDeep_read_iff] at hdeep
  have harray : Json.TooDeep
      (Json.readArray (Json.readValue (Json.maxDepth - 1)) (trailing xs ++ [']'])) := hdeep.2
  rw [Json.readArray, skipSpace_trailing] at harray
  split at harray
  · exact Json.not_tooDeep_ok _ harray
  · have hitems := harray.of_bind fun _ => Json.not_tooDeep_ok _
    exact not_tooDeep_readItems_trailing _ _ xs hitems

theorem normalize_eq_mended (xs : List Text) : normalize (bracketed (trailing xs)) =
    .ok (literalOf (mended (splitItems (trailing xs)))) := by
  have hrepair := repair_bracketed (trailing xs)
  rw [trim_trailing] at hrepair
  rw [← hrepair]
  by_cases hne : xs = []
  · rw [hne]
    exact normalize_of_blank rfl
  · have hdeep := not_isDeep_trailing xs
    rw [trailing_eq_join hne] at hdeep ⊢
    exact normalize_of_comma Text.blank_nil hdeep

theorem exists_splitItems_trailing (xs : List Text) :
    ∃ ps, splitItems (trailing xs) = ps ++ [[]] ∧ commaed ps = trailing xs := by
  by_cases hne : xs = []
  · rw [hne]
    exact ⟨[], rfl, rfl⟩
  · refine ⟨splitItems (Text.join [','] (xs.map Json.writeText)), ?_, ?_⟩
    · rw [trailing_eq_join hne, splitItems_concat_comma]
    · rw [trailing_eq_join hne, commaed_splitItems]

theorem literalOf_of_commaed {ps qs : List Text} (h : commaed ps = commaed qs) :
    literalOf ps = literalOf qs := by
  by_cases hps : ps = []
  · rw [hps] at h ⊢
    rw [commaed_eq_nil_iff.mp h.symm]
  · have hqs : qs ≠ [] := by
      rintro rfl
      exact hps (commaed_eq_nil_iff.mp h)
    rw [commaed_eq_join hps, commaed_eq_join hqs] at h
    rw [literalOf, literalOf, List.append_cancel_right h]

/-- What is read off the mended pieces has as many quotation marks and as much room as the texts
only if nothing has been done to the pieces. -/
theorem stays_of_read {ps : List Text} (hps : commaed ps = trailing xs)
    (h : Json.read (literalOf (mended ps)) = .ok (.list (xs.map .text))) : ∀ p ∈ ps, Stays p := by
  have hshrinks := shrinks_mended ps
  obtain ⟨hlength, hquotes⟩ := Json.bounds_of_read h
  rw [← length_trailing, ← hps] at hlength
  rw [← quoteCount_trailing, ← hps] at hquotes
  by_cases hnil : mended ps = []
  · -- Nothing is left, so that there was nothing that had quotation marks.
    cases xs with
    | nil =>
      rw [commaed_eq_nil_iff.mp hps]
      exact fun p hp => absurd hp List.not_mem_nil
    | cons x xs =>
      have hmore := hshrinks.quotes
      have hzero : quoteCount (commaed []) = 0 := rfl
      rw [hnil, hzero, hps, quoteCount_trailing_cons] at hmore
      omega
  · have hroom : (Text.join [','] (mended ps) ++ [']']).length = (commaed (mended ps)).length := by
      rw [commaed_eq_join hnil, List.length_append, List.length_append]
      rfl
    have hcount : (Text.join [','] (mended ps) ++ [']']).count '"' =
        quoteCount (commaed (mended ps)) := by
      rw [commaed_eq_join hnil, quoteCount_append, List.count_append]
      rfl
    exact hshrinks.stays (by omega) (by omega)

def Sheltered (xs : List Text) : Prop :=
  ∀ a b, xs.flatten = a ++ ',' :: b → quoteCount b % 2 = 0

theorem Sheltered.tail {x : Text} (h : Sheltered (x :: xs)) : Sheltered xs := by
  intro a b heq
  refine h (x ++ a) b ?_
  rw [List.flatten_cons, heq, List.append_assoc]

theorem quoteCount_trailing_mod (xs : List Text) :
    quoteCount (trailing xs) % 2 = quoteCount xs.flatten % 2 := by
  induction xs with
  | nil => rfl
  | cons x xs ih =>
    rw [quoteCount_trailing_cons, List.flatten_cons, quoteCount_append]
    omega

theorem splitItems_writeChars {x s item : Text} {items : List Text}
    (hs : splitItems s = item :: items)
    (h : ∀ a b, x = a ++ ',' :: b → (quoteCount b + quoteCount s) % 2 = 1) :
    splitItems (x.flatMap Json.writeChar ++ s) = (x.flatMap Json.writeChar ++ item) :: items := by
  induction x with
  | nil => exact hs
  | cons c x ih =>
    have ih := ih fun a b heq => h (c :: a) b (by rw [heq, List.cons_append])
    rw [List.flatMap_cons, List.append_assoc, List.append_assoc]
    by_cases hc : c = ','
    · have hodd := h [] x (by rw [hc, List.nil_append])
      have hwritten : quoteCount (x.flatMap Json.writeChar) = quoteCount x :=
        Json.count_quote_writeChars x
      rw [← hwritten, ← quoteCount_append] at hodd
      rw [hc]
      exact splitItems_keep (fun _ => hodd) ih
    · exact splitItems_append_of_not_mem (Json.comma_not_mem_writeChar hc) ih

theorem splitItems_writeText_append {x s item : Text} {items : List Text}
    (hs : splitItems s = item :: items)
    (h : ∀ a b, x = a ++ ',' :: b → (quoteCount b + quoteCount s) % 2 = 0) :
    splitItems (Json.writeText x ++ s) = (Json.writeText x ++ item) :: items := by
  have happ (t : Text) :
      Json.writeText x ++ t = '"' :: (x.flatMap Json.writeChar ++ '"' :: t) := by
    simp [Json.writeText]
  have hend : splitItems ('"' :: s) = ('"' :: item) :: items :=
    splitItems_keep (fun hc => absurd hc (by decide)) hs
  have hodd : ∀ a b, x = a ++ ',' :: b → (quoteCount b + quoteCount ('"' :: s)) % 2 = 1 := by
    intro a b hx
    have heven := h a b hx
    have hone : quoteCount ['"'] = 1 := rfl
    rw [quoteCount_cons]
    omega
  rw [happ, happ]
  exact splitItems_keep (fun hc => absurd hc (by decide)) (splitItems_writeChars hend hodd)

theorem exists_quoted_pieces (h : Sheltered xs) :
    ∃ ys : List Text, splitItems (trailing xs) = ys.map inQuotes ++ [[]] := by
  -- By induction on the texts: the comma after a text cuts or does not, and either way what is cut
  -- off is in quotation marks.
  induction xs with
  | nil => exact ⟨[], rfl⟩
  | cons x xs ih =>
    obtain ⟨ys, hys⟩ := ih h.tail
    have hcommas : ∀ a b, x = a ++ ',' :: b →
        (quoteCount b + quoteCount (',' :: trailing xs)) % 2 = 0 := by
      intro a b hx
      have heven := h a (b ++ xs.flatten) (by rw [List.flatten_cons, hx, List.append_assoc]; rfl)
      have hmod := quoteCount_trailing_mod xs
      rw [quoteCount_append] at heven
      rw [quoteCount_comma]
      omega
    have hx : Json.writeText x = inQuotes (x.flatMap Json.writeChar) := rfl
    rw [trailing_cons]
    by_cases heven : quoteCount (trailing xs) % 2 = 0
    · refine ⟨x.flatMap Json.writeChar :: ys, ?_⟩
      rw [splitItems_writeText_append (splitItems_cut heven) hcommas, hys, List.append_nil, hx]
      rfl
    · cases ys with
      | nil =>
        -- An empty text would have no quotation marks, and they are an odd number.
        have hjoin := join_splitItems (trailing xs)
        rw [hys] at hjoin
        rw [← hjoin] at heven
        exact absurd rfl heven
      | cons y ys =>
        have hkeep : splitItems (',' :: trailing xs) =
            (',' :: inQuotes y) :: (ys.map inQuotes ++ [[]]) :=
          splitItems_keep (fun _ => by omega) hys
        rw [splitItems_writeText_append hkeep hcommas, hx, inQuotes_append]
        exact ⟨_ :: ys, rfl⟩

/-- The last comma goes, and the texts are read off what is left exactly if the pieces stay.  They
do if no comma within the texts is taken for one between them. -/
theorem normalize_trailing (xs : List Text) :
    ∃ t, normalize (bracketed (trailing xs)) = .ok t ∧
      (Json.read t = .ok (.list (xs.map .text)) ↔
        ∀ p ∈ (splitItems (trailing xs)).dropLast, Stays p) ∧
      (Sheltered xs → Json.read t = .ok (.list (xs.map .text))) := by
  obtain ⟨ps, hsplit, hps⟩ := exists_splitItems_trailing xs
  have hnormal := normalize_eq_mended xs
  have hnil : mended [[]] = [] := rfl
  rw [hsplit, mended_append, hnil, List.append_nil] at hnormal
  have hread : Json.read (literalOf (mended ps)) = .ok (.list (xs.map .text)) ↔
      ∀ p ∈ ps, Stays p := by
    constructor
    · exact stays_of_read hps
    · intro hstays
      rw [mended_of_stays hstays, literalOf_of_commaed hps]
      exact read_texts xs
  refine ⟨literalOf (mended ps), hnormal, ?_, ?_⟩
  · rw [hsplit, List.dropLast_concat]
    exact hread
  · intro hsheltered
    obtain ⟨ys, hys⟩ := exists_quoted_pieces hsheltered
    have hpieces : ps = ys.map inQuotes := List.append_cancel_right (hsplit.symm.trans hys)
    apply hread.mpr
    rw [hpieces]
    exact List.forall_mem_map.mpr fun y _ => stays_inQuotes y

theorem normalize_trailing_quote :
    normalize (bracketed (trailing ["a, b".toList, ['"']])) =
        .ok (literalOf (["a,b".toList, ['"']].map Json.writeText)) ∧
      Json.read (literalOf (["a,b".toList, ['"']].map Json.writeText)) ≠
        .ok (.list (["a, b".toList, ['"']].map .text)) := by
  constructor
  · rfl
  · rw [read_texts]
    decide

end LitNote.ArrayLiteral
