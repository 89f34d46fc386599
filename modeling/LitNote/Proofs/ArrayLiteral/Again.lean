import LitNote.Proofs.ArrayLiteral.Pieces

/-!
A second repair of what has been repaired.  Main statement: it changes nothing exactly if the
literal is JSON by then, or no link that got quotation marks has a piece between its commas that
would not stay; and it fails where the first one made a literal that nests too deep.
-/

namespace LitNote.ArrayLiteral

section
variable {s t : Text}

def IsBroken (s : Text) : Prop :=
  isTemplate (Text.trim s) = true ∧ ∃ f, Json.read (Text.trim s) = .error f

/-- A link that is no longer left alone once it has got quotation marks. -/
def Frays (i : Text) : Prop :=
  isLink i = true ∧ isQuoted i = false ∧ ∃ p ∈ Text.splitAtChar ',' (quoteItem i), ¬Stays p

theorem normalize_empty : normalize empty = .ok empty := rfl

theorem not_isBroken_empty : ¬IsBroken empty := by
  rintro ⟨-, f, hf⟩
  cases hf

theorem exists_read_of_isJson (h : isJson s = .ok true) : ∃ v, Json.read s = .ok v := by
  rw [isJson] at h
  split at h
  · next v hv => exact ⟨v, hv⟩
  · split at h <;> cases h

theorem normalize_cases (h : normalize s = .ok t) :
    (normalize t = .ok t ∧ ¬IsBroken t) ∨ t = repair (Text.trim s) := by
  have hnormal := h
  rw [normalize] at h
  split at h
  · cases h
    exact .inl ⟨normalize_empty, not_isBroken_empty⟩
  split at h
  · next htemplate =>
    cases h
    rw [Bool.not_eq_true'] at htemplate
    refine .inl ⟨hnormal, ?_⟩
    rintro ⟨h, -⟩
    rw [h] at htemplate
    cases htemplate
  · obtain ⟨json, hjson, h⟩ := Failure.bind_eq_ok_iff.mp h
    cases json with
    | true =>
      cases h
      obtain ⟨v, hv⟩ := exists_read_of_isJson hjson
      refine .inl ⟨hnormal, ?_⟩
      rintro ⟨-, f, hf⟩
      rw [hv] at hf
      cases hf
    | false =>
      cases h
      exact .inr rfl

theorem normalize_eq_self_iff {content : Text} (hne : content.filter (!Text.isBlank ·) ≠ []) :
    normalize (bracketed content) = .ok (bracketed content) ↔ ¬IsDeep (bracketed content) ∧
      (IsBroken (bracketed content) → repair (bracketed content) = bracketed content) := by
  cases hread : Json.read (bracketed content) with
  | ok v =>
    have hnormal := normalize_of_read hread hne
    refine iff_of_true hnormal ⟨exists_normalize_iff.mp ⟨_, hnormal⟩, ?_⟩
    rintro ⟨-, f, hf⟩
    rw [trim_bracketed, hread] at hf
    cases hf
  | error f =>
    have hnormal := normalize_of_error hne hread
    by_cases hcause : f.cause = .tooDeep
    · rw [if_pos hcause] at hnormal
      have hdeep := (normalize_eq_error_iff.mp hnormal).2
      rw [hnormal]
      exact iff_of_false (by simp) fun h => h.1 hdeep
    · rw [if_neg hcause] at hnormal
      have hdeep := exists_normalize_iff.mp ⟨_, hnormal⟩
      have hbroken : IsBroken (bracketed content) := by
        rw [IsBroken, trim_bracketed]
        exact ⟨isTemplate_bracketed content, f, hread⟩
      rw [hnormal, Except.ok.injEq]
      exact ⟨fun h => ⟨hdeep, fun _ => h⟩, fun h => h.2 hbroken⟩

theorem Guarded.of_append {a : Text} (h : Guarded (a ++ s)) : Guarded s := by
  induction a with
  | nil => exact h
  | cons c a ih => exact ih h.2

theorem Guarded.of_append_blank {b : Text} (hb : Text.Blank b) (h : Guarded (s ++ b)) :
    Guarded s := by
  induction s with
  | nil => trivial
  | cons c s ih =>
    refine ⟨fun hc => ?_, ih h.2⟩
    have hodd := h.1 hc
    rwa [List.append_eq, quoteCount_append_blank hb] at hodd

theorem Guarded.trim (h : Guarded s) : Guarded (Text.trim s) := by
  obtain ⟨a, b, -, hb, heq⟩ := Text.padded_trim s
  rw [heq, List.append_assoc] at h
  exact h.of_append.of_append_blank hb

structure IsItem (i : Text) : Prop where
  ne_nil : i ≠ []
  trim_eq : Text.trim i = i
  guarded : Guarded i

theorem items_spec (literal : Text) : (∀ i ∈ items literal, IsItem i) ∧
    ∀ i ∈ (items literal).tail, quoteCount i % 2 = 0 := by
  obtain ⟨p, ps, hsplit, hp, -, hps⟩ :=
    exists_pieces (Text.trim (literal.drop 1).dropLast)
  have hguarded : ∀ q ∈ p :: ps, Guarded q :=
    List.forall_mem_cons.mpr ⟨hp, fun q hq => (hps q hq).1⟩
  have hitem {l : List Text} {i : Text} (hi : i ∈ (l.map Text.trim).filter (!·.isEmpty)) :
      ∃ q ∈ l, i = Text.trim q ∧ i ≠ [] := by
    obtain ⟨hmap, hne⟩ := List.mem_filter.mp hi
    obtain ⟨q, hq, rfl⟩ := List.mem_map.mp hmap
    exact ⟨q, hq, rfl, by simpa using hne⟩
  rw [items, hsplit]
  constructor
  · intro i hi
    obtain ⟨q, hq, rfl, hne⟩ := hitem hi
    exact ⟨hne, Text.trim_trim q, (hguarded q hq).trim⟩
  · intro i hi
    -- If the first piece is blank, it is dropped and all items come from the later ones.
    have htail : i ∈ (ps.map Text.trim).filter (!·.isEmpty) := by
      rw [List.map_cons, List.filter_cons] at hi
      split at hi
      · exact hi
      · exact List.mem_of_mem_tail hi
    obtain ⟨q, hq, rfl, -⟩ := hitem htail
    rw [quoteCount_trim, (hps q hq).2]

theorem splitItems_cons_eq_splitAtChar {c : Char} (hs : splitItems s = Text.splitAtChar ',' s)
    (hc : c = ',' → quoteCount s % 2 = 0) :
    splitItems (c :: s) = Text.splitAtChar ',' (c :: s) := by
  obtain ⟨item, items, hitems⟩ := List.exists_cons_of_ne_nil (splitItems_ne_nil s)
  have hsplit := hs.symm.trans hitems
  rw [Text.splitAtChar] at hsplit
  rw [Text.splitAtChar, Text.splitBy]
  by_cases hcomma : c = ','
  · rw [hcomma, splitItems_cut (hc hcomma), hs]
    rfl
  · rw [splitItems_keep (fun h => absurd h hcomma) hitems, beq_false_of_ne hcomma, hsplit]
    rfl

theorem splitItems_quoteItem {i : Text} (hi : Guarded i) (hlink : isLink i = true)
    (hquoted : isQuoted i = false) :
    splitItems (quoteItem i) = Text.splitAtChar ',' (quoteItem i) := by
  rw [quoteItem_of_link hlink hquoted]
  refine splitItems_cons_eq_splitAtChar ?_ (fun hc => absurd hc (by decide))
  clear hlink hquoted
  induction i with
  | nil => rfl
  | cons c i ih =>
    have ih := ih hi.2
    rw [Text.replaceAll_char_cons]
    by_cases hc : c = '"'
    · rw [hc]
      have hquote := splitItems_cons_eq_splitAtChar ih fun hc : '"' = ',' => absurd hc (by decide)
      exact splitItems_cons_eq_splitAtChar hquote fun hc => absurd hc (by decide)
    · -- The mark at the end is the one more that makes their number even.
      have heven : c = ',' →
          quoteCount (Text.replaceAll ['"'] ['\\', '"'] i ++ ['"']) % 2 = 0 := fun hcomma => by
        have hodd := hi.1 hcomma
        have hone : quoteCount ['"'] = 1 := rfl
        rw [quoteCount_append, quoteCount_replaceAll]
        omega
      rw [beq_false_of_ne hc, if_neg Bool.false_ne_true]
      exact splitItems_cons_eq_splitAtChar ih heven

theorem frays_iff {i : Text} (hi : IsItem i) :
    Frays i ↔ ¬∀ p ∈ splitItems (quoteItem i), Stays p := by
  by_cases hquoted : isLink i = true → isQuoted i = true
  · -- No comma of an item cuts as long as nothing is put around it.
    have hpieces : splitItems (quoteItem i) = [i] := by
      rw [quoteItem_of_quoted hquoted, splitItems_of_guarded hi.guarded]
    rw [hpieces]
    constructor
    · rintro ⟨hlink, hfalse, -⟩
      rw [hquoted hlink] at hfalse
      cases hfalse
    · exact fun h => absurd (List.forall_mem_singleton.mpr ⟨hi.ne_nil, hi.trim_eq, hquoted⟩) h
  · rw [Classical.not_imp, Bool.not_eq_true] at hquoted
    obtain ⟨hlink, hquoted⟩ := hquoted
    rw [splitItems_quoteItem hi.guarded hlink hquoted]
    constructor
    · rintro ⟨-, -, p, hp, hstays⟩ h
      exact hstays (h p hp)
    · intro h
      simp only [Classical.not_forall] at h
      obtain ⟨p, hp, hstays⟩ := h
      exact ⟨hlink, hquoted, p, hp, hstays⟩

theorem quoteItem_spec {i : Text} (hi : IsItem i) : quoteItem i ≠ [] ∧
    Text.trim (quoteItem i) = quoteItem i ∧ quoteCount (quoteItem i) % 2 = quoteCount i % 2 := by
  by_cases hquoted : isLink i = true → isQuoted i = true
  · rw [quoteItem_of_quoted hquoted]
    exact ⟨hi.ne_nil, hi.trim_eq, rfl⟩
  · rw [Classical.not_imp, Bool.not_eq_true] at hquoted
    obtain ⟨hlink, hquoted⟩ := hquoted
    have hcount := quoteCount_quoteItem hlink hquoted
    have hquotes : quoteItem i = inQuotes (Text.replaceAll ['"'] ['\\', '"'] i) :=
      quoteItem_of_link hlink hquoted
    have hstays := stays_inQuotes (Text.replaceAll ['"'] ['\\', '"'] i)
    rw [← hquotes] at hstays
    exact ⟨hstays.ne_nil, hstays.trim_eq, by omega⟩

theorem join_quoteItem_spec {literal : Text} (hne : items literal ≠ []) :
    Text.join [','] ((items literal).map quoteItem) ≠ [] ∧
      Text.trim (Text.join [','] ((items literal).map quoteItem)) =
        Text.join [','] ((items literal).map quoteItem) := by
  refine trim_join (fun h => hne (List.map_eq_nil_iff.mp h)) (List.forall_mem_map.mpr ?_)
  intro i hi
  obtain ⟨hquoted, htrim, -⟩ := quoteItem_spec ((items_spec literal).1 i hi)
  exact ⟨hquoted, htrim⟩

theorem repair_repair_iff {literal : Text} (hne : items literal ≠ []) :
    repair (repair literal) = repair literal ↔ ∀ i ∈ items literal, ¬Frays i := by
  obtain ⟨hitems, heven⟩ := items_spec literal
  obtain ⟨hjoin, htrim⟩ := join_quoteItem_spec hne
  have hsplit : splitItems (Text.join [','] ((items literal).map quoteItem)) =
      ((items literal).map quoteItem).flatMap splitItems := by
    obtain ⟨i, is, heq⟩ := List.exists_cons_of_ne_nil hne
    rw [heq] at hitems heven ⊢
    refine splitItems_join (quoteItem i) (List.forall_mem_map.mpr fun j hj => ?_)
    rw [(quoteItem_spec (hitems j (List.mem_cons_of_mem i hj))).2.2, heven j hj]
  have hfrays : (∀ i ∈ items literal, ¬Frays i) ↔
      ∀ i ∈ items literal, ∀ p ∈ splitItems (quoteItem i), Stays p :=
    forall₂_congr fun i hi => by rw [frays_iff (hitems i hi), Classical.not_not]
  rw [repair_eq literal, literalOf, repair_eq_self_iff hjoin htrim, hsplit, hfrays]
  simp only [List.mem_flatMap, List.mem_map]
  constructor
  · exact fun h i hi p hp => h p ⟨_, ⟨i, hi, rfl⟩, hp⟩
  · rintro h p ⟨_, ⟨i, hi, rfl⟩, hp⟩
    exact h i hi p hp

theorem normalize_repair_iff (literal : Text) : normalize (repair literal) = .ok (repair literal) ↔
    ¬IsDeep (repair literal) ∧ (IsBroken (repair literal) → ∀ i ∈ items literal, ¬Frays i) := by
  by_cases hne : items literal = []
  · have hempty : repair literal = empty := by
      rw [repair_eq, hne]
      rfl
    rw [hempty]
    have hdeep := exists_normalize_iff.mp ⟨_, normalize_empty⟩
    exact iff_of_true normalize_empty ⟨hdeep, fun h => absurd h not_isBroken_empty⟩
  · have hrepair := repair_repair_iff hne
    obtain ⟨hjoin, htrim⟩ := join_quoteItem_spec hne
    have hfilter : (Text.join [','] ((items literal).map quoteItem)).filter
        (!Text.isBlank ·) ≠ [] := by
      obtain ⟨c, content, heq⟩ := List.exists_cons_of_ne_nil hjoin
      rw [heq] at htrim ⊢
      exact filter_ne_nil rfl (Text.head_of_trim_eq htrim)
    rw [repair_eq literal, literalOf] at hrepair ⊢
    rw [normalize_eq_self_iff hfilter, hrepair]

/-- A second pass gives what the first one gave, exactly if the literal that this one repaired does
not nest too deep, and is JSON by then or holds no link that frays. -/
theorem normalize_twice_iff (s : Text) : (normalize s >>= normalize) = normalize s ↔
    ∀ t, normalize s = .ok t →
      ¬IsDeep t ∧ (IsBroken t → ∀ i ∈ items (Text.trim s), ¬Frays i) := by
  cases h : normalize s with
  | error e => exact iff_of_true rfl fun t ht => by cases ht
  | ok t =>
    have hlater : normalize t = .ok t ↔
        ¬IsDeep t ∧ (IsBroken t → ∀ i ∈ items (Text.trim s), ¬Frays i) := by
      rcases normalize_cases h with ⟨hnormal, hbroken⟩ | rfl
      · have hdeep := exists_normalize_iff.mp ⟨t, hnormal⟩
        exact iff_of_true hnormal ⟨hdeep, fun h => absurd h hbroken⟩
      · exact normalize_repair_iff _
    rw [Failure.ok_bind, hlater]
    constructor
    · rintro h t ht
      cases ht
      exact h
    · exact fun h => h t rfl

theorem normalize_frayed :
    normalize "[[[\"a, b\"]],x]".toList = .ok "[\"[[\\\"a, b\\\"]]\",x]".toList ∧
      normalize "[\"[[\\\"a, b\\\"]]\",x]".toList =
        .ok "[\"[[\\\"a,b\\\"]]\",x]".toList ∧
      "[\"[[\\\"a, b\\\"]]\",x]".toList ≠ "[\"[[\\\"a,b\\\"]]\",x]".toList := by
  refine ⟨?_, ?_, ?_⟩
  · rfl
  · rfl
  · decide

end

end LitNote.ArrayLiteral
