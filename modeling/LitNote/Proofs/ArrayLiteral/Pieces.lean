import LitNote.Proofs.ArrayLiteral.Quoted

/-!
The pieces between the commas at which the repair cuts.  Main statement: a repair leaves a literal
as it is exactly if all of its pieces stay.  Otherwise it has more quotation marks afterwards, or it
is shorter.
-/

namespace LitNote.ArrayLiteral

section
variable {s p : Text} {ps : List Text}

/-- Every comma within a piece has an odd number of quotation marks after it in the piece, and from
the second piece on their number in the piece is even. -/
theorem exists_pieces (s : Text) : ∃ p ps, splitItems s = p :: ps ∧ Guarded p ∧
    quoteCount p % 2 = quoteCount s % 2 ∧ ∀ q ∈ ps, Guarded q ∧ quoteCount q % 2 = 0 := by
  induction s with
  | nil => exact ⟨[], [], rfl, trivial, rfl, fun q hq => absurd hq List.not_mem_nil⟩
  | cons c s ih =>
    obtain ⟨p, ps, hs, hp, hparity, hps⟩ := ih
    rcases splitItems_cases c s with ⟨rfl, heven, heq⟩ | ⟨hodd, item, items, hitems, heq⟩
    · have hpieces : ∀ q ∈ p :: ps, Guarded q ∧ quoteCount q % 2 = 0 :=
        List.forall_mem_cons.mpr ⟨⟨hp, by rw [hparity, heven]⟩, hps⟩
      refine ⟨[], p :: ps, by rw [heq, hs], trivial, ?_, hpieces⟩
      rw [quoteCount_comma, heven]
      rfl
    · rw [hs] at hitems
      cases hitems
      have hc : c = ',' → quoteCount p % 2 = 1 := fun hc => by
        have hne := hodd hc
        omega
      refine ⟨c :: p, ps, heq, ⟨hc, hp⟩, ?_, hps⟩
      rw [quoteCount_cons c p, quoteCount_cons c s]
      omega

theorem commaed_splitItems (s : Text) : commaed (splitItems s) = s ++ [','] := by
  induction s with
  | nil => rfl
  | cons c s ih =>
    rcases splitItems_cases c s with ⟨rfl, -, heq⟩ | ⟨-, item, items, hitems, heq⟩
    · rw [heq, commaed_cons, ih]
      rfl
    · rw [hitems, commaed_cons] at ih
      rw [heq, commaed_cons, List.cons_append, ih, List.cons_append]

theorem join_splitItems (s : Text) : Text.join [','] (splitItems s) = s := by
  have h := commaed_splitItems s
  rw [commaed_eq_join (splitItems_ne_nil s)] at h
  exact List.append_cancel_right h

/-- The piece is neither trimmed nor dropped, and gets no quotation marks. -/
structure Stays (p : Text) : Prop where
  ne_nil : p ≠ []
  trim_eq : Text.trim p = p
  quoted : isLink p = true → isQuoted p = true

instance (p : Text) : Decidable (Stays p) :=
  decidable_of_iff (p ≠ [] ∧ Text.trim p = p ∧ (isLink p = true → isQuoted p = true))
    ⟨fun ⟨hne, htrim, hquoted⟩ => ⟨hne, htrim, hquoted⟩,
      fun ⟨hne, htrim, hquoted⟩ => ⟨hne, htrim, hquoted⟩⟩

theorem stays_inQuotes (s : Text) : Stays (inQuotes s) where
  ne_nil := List.cons_ne_nil _ _
  trim_eq := trim_inQuotes s
  quoted _ := Item.isQuoted_quoted s

theorem quoteItem_of_quoted (h : isLink p = true → isQuoted p = true) : quoteItem p = p := by
  rw [quoteItem]
  cases hquoted : isQuoted p with
  | true => rfl
  | false =>
    have hlink : isLink p = false := Bool.eq_false_iff.mpr fun hlink => by
      rw [h hlink] at hquoted
      cases hquoted
    rw [hlink]
    rfl

theorem quoteCount_replaceAll (s : Text) :
    quoteCount (Text.replaceAll ['"'] ['\\', '"'] s) = quoteCount s := by
  induction s with
  | nil => rfl
  | cons c s ih =>
    rw [Text.replaceAll_char_cons, quoteCount_append, ih, quoteCount_cons c s]
    by_cases hc : c = '"'
    · rw [hc]
      rfl
    · rw [beq_false_of_ne hc, if_neg Bool.false_ne_true]

theorem quoteItem_of_link (hlink : isLink p = true) (hquoted : isQuoted p = false) :
    quoteItem p = '"' :: (Text.replaceAll ['"'] ['\\', '"'] p ++ ['"']) := by
  rw [quoteItem, hquoted, hlink]
  rfl

theorem quoteCount_quoteItem (hlink : isLink p = true) (hquoted : isQuoted p = false) :
    quoteCount (quoteItem p) = quoteCount p + 2 := by
  have hcount := Item.quoteCount_quoted (Text.replaceAll ['"'] ['\\', '"'] p)
  rw [quoteCount_replaceAll] at hcount
  rw [quoteItem_of_link hlink hquoted]
  exact hcount

theorem quoteCount_trim (p : Text) : quoteCount (Text.trim p) = quoteCount p :=
  (quoteCount_of_padded (Text.padded_trim p)).symm

def mended (ps : List Text) : List Text :=
  ((ps.map Text.trim).filter (!·.isEmpty)).map quoteItem

theorem repair_bracketed (content : Text) :
    repair (bracketed content) = literalOf (mended (splitItems (Text.trim content))) := by
  rw [repair_eq, items_bracketed, mended]

theorem mended_append (ps qs : List Text) : mended (ps ++ qs) = mended ps ++ mended qs := by
  simp [mended]

theorem mended_of_stays (h : ∀ p ∈ ps, Stays p) : mended ps = ps := by
  have htrim : ps.map Text.trim = ps := by
    rw [List.map_congr_left fun p hp => (h p hp).trim_eq, List.map_id']
  have hfilter : ps.filter (!·.isEmpty) = ps :=
    List.filter_eq_self.mpr fun p hp => by simp [(h p hp).ne_nil]
  have hquote : ps.map quoteItem = ps := by
    rw [List.map_congr_left fun p hp => quoteItem_of_quoted (h p hp).quoted, List.map_id']
  rw [mended, htrim, hfilter, hquote]

/-- Quotation marks are not lost.  Where none is added, nothing gets longer, and only what stays is
as long as before. -/
structure Shrinks (ps qs : List Text) : Prop where
  quotes : quoteCount (commaed ps) ≤ quoteCount (commaed qs)
  length : quoteCount (commaed qs) ≤ quoteCount (commaed ps) →
    (commaed qs).length ≤ (commaed ps).length
  stays : quoteCount (commaed qs) ≤ quoteCount (commaed ps) →
    (commaed ps).length ≤ (commaed qs).length → ∀ p ∈ ps, Stays p

theorem commaed_eq_nil_iff : commaed ps = [] ↔ ps = [] := by
  constructor
  · intro h
    cases ps with
    | nil => rfl
    | cons p ps =>
      rw [commaed_cons] at h
      exact absurd h (List.append_ne_nil_of_right_ne_nil _ (List.cons_ne_nil _ _))
  · rintro rfl
    rfl

theorem commaed_append (ps qs : List Text) : commaed (ps ++ qs) = commaed ps ++ commaed qs :=
  List.flatMap_append

theorem Shrinks.append {ps qs ps' qs' : List Text} (h : Shrinks ps qs) (h' : Shrinks ps' qs') :
    Shrinks (ps ++ ps') (qs ++ qs') := by
  have hq := h.quotes
  have hq' := h'.quotes
  constructor <;> rw [commaed_append, commaed_append, quoteCount_append, quoteCount_append]
  · omega
  · intro hle
    have hl := h.length (by omega)
    have hl' := h'.length (by omega)
    rw [List.length_append, List.length_append]
    omega
  · intro hle hlength p hp
    have hl := h.length (by omega)
    have hl' := h'.length (by omega)
    rw [List.length_append, List.length_append] at hlength
    rcases List.mem_append.mp hp with hp | hp
    · exact h.stays (by omega) (by omega) p hp
    · exact h'.stays (by omega) (by omega) p hp

theorem shrinks_mended_singleton (p : Text) : Shrinks [p] (mended [p]) := by
  have hquotes (q : Text) : quoteCount (commaed [q]) = quoteCount q := by
    have happ : commaed [q] = q ++ [','] := List.flatMap_singleton ..
    rw [happ, quoteCount_append]
    rfl
  have hlength (q : Text) : (commaed [q]).length = q.length + 1 := by
    simp [commaed]
  have htrim := (Text.trim_sublist p).length_le
  have hcount := quoteCount_trim p
  by_cases hnil : Text.trim p = []
  · have hmended : mended [p] = [] := by simp [mended, hnil]
    rw [hnil] at hcount
    have hzero : quoteCount p = 0 := hcount.symm
    rw [hmended]
    constructor <;> rw [hquotes]
    · rw [hzero]
      exact Nat.zero_le _
    · exact fun _ => Nat.zero_le _
    · intro _ hle
      rw [hlength] at hle
      exact absurd hle (Nat.not_succ_le_zero _)
  · have hmended : mended [p] = [quoteItem (Text.trim p)] := by simp [mended, hnil]
    rw [hmended]
    by_cases hquoted : isLink (Text.trim p) = true → isQuoted (Text.trim p) = true
    · rw [quoteItem_of_quoted hquoted]
      constructor <;> rw [hquotes, hquotes, hcount]
      · intro _
        rw [hlength, hlength]
        omega
      · intro _ hle
        rw [hlength, hlength] at hle
        have heq : Text.trim p = p := (Text.trim_sublist p).eq_of_length (by omega)
        rw [heq] at hnil hquoted
        exact List.forall_mem_singleton.mpr ⟨hnil, heq, hquoted⟩
    · rw [Classical.not_imp, Bool.not_eq_true] at hquoted
      have hmore := quoteCount_quoteItem hquoted.1 hquoted.2
      constructor <;> rw [hquotes, hquotes] <;> omega

theorem shrinks_mended (ps : List Text) : Shrinks ps (mended ps) := by
  induction ps with
  | nil => exact ⟨Nat.le_refl _, fun _ => Nat.le_refl _, fun _ _ p hp => absurd hp List.not_mem_nil⟩
  | cons p ps ih =>
    have h := (shrinks_mended_singleton p).append ih
    rwa [← mended_append] at h

theorem repair_eq_self_iff {content : Text} (hne : content ≠ [])
    (htrim : Text.trim content = content) :
    repair (bracketed content) = bracketed content ↔ ∀ p ∈ splitItems content, Stays p := by
  rw [repair_bracketed, htrim, literalOf]
  constructor
  · intro h
    have hjoin : Text.join [','] (mended (splitItems content)) = content :=
      List.append_cancel_right (List.cons.inj h).2
    have hmended : mended (splitItems content) ≠ [] := by
      intro hnil
      rw [hnil] at hjoin
      exact hne hjoin.symm
    have hcommaed : commaed (mended (splitItems content)) = commaed (splitItems content) := by
      rw [commaed_eq_join hmended, hjoin, commaed_splitItems]
    refine (shrinks_mended _).stays ?_ ?_ <;> rw [hcommaed]
  · intro h
    rw [mended_of_stays h, join_splitItems]

end

end LitNote.ArrayLiteral
