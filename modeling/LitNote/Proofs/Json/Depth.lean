import LitNote.Proofs.Json.Progress

/-!
How deep containers nest.  Main statements: nesting is too deep only in a text with more opening
brackets and braces than `maxDepth`, and brackets alone that are more than that are too deep.
-/

namespace LitNote.Json

variable {s t rest : Text} {v : Value}

section
variable {value : Text → Result (Value × Text)}

theorem exists_steps_of_readEntry (h : TooDeep (readEntry value s)) :
    ∃ t, Steps s t ∧ TooDeep (value t) := by
  rcases readEntry_cases value s with ⟨f, hf, hcause⟩ | ⟨key, t, ht, heq⟩
  · rcases h with ⟨g, hg, hdeep⟩
    rw [hf] at hg
    cases hg
    exact absurd hdeep hcause
  · rw [heq] at h
    exact ⟨t, ht, h.of_bind fun _ => not_tooDeep_ok _⟩

variable (hvalue : Advances value)
include hvalue

theorem exists_steps_of_readArray (h : TooDeep (readArray value s)) :
    ∃ t, Steps s t ∧ TooDeep (value t) := by
  have hnext : ∀ u v after rest, Steps s u → value u = .ok (v, after) →
      skipSpace after = ',' :: rest → Steps s (skipSpace rest) :=
    fun u v after rest hu hv heq => hu.trans (hvalue.next hv heq)
  rw [readArray] at h
  split at h
  · exact absurd h (not_tooDeep_ok _)
  · have hitems := h.of_bind fun _ => not_tooDeep_ok _
    exact exists_tooDeep_of_readItems hnext (steps_skipSpace s) hitems

theorem exists_steps_of_readEntries {fuel : Nat} (h : TooDeep (readEntries value fuel s)) :
    ∃ t, Steps s t ∧ TooDeep (value t) := by
  induction fuel generalizing s with
  | zero => exact absurd h (not_tooDeep_fail (by decide) _)
  | succ fuel ih =>
    rw [readEntries] at h
    rcases tooDeep_bind_iff.mp h with hdeep | ⟨⟨e, after⟩, he, h⟩
    · exact exists_steps_of_readEntry hdeep
    dsimp only at h
    split at h
    · exact absurd h (not_tooDeep_ok _)
    · next t heq =>
      obtain ⟨u, hu, hdeep⟩ := ih (h.of_bind fun _ => not_tooDeep_ok _)
      exact ⟨u, (steps_next_of_readEntry hvalue he heq).trans hu, hdeep⟩
    · exact absurd h (not_tooDeep_fail (by decide) _)

theorem exists_steps_of_readObject (h : TooDeep (readObject value s)) :
    ∃ t, Steps s t ∧ TooDeep (value t) := by
  rw [readObject] at h
  split at h
  · exact absurd h (not_tooDeep_ok _)
  · have hentries := h.of_bind fun _ => not_tooDeep_ok _
    obtain ⟨t, ht, hdeep⟩ := exists_steps_of_readEntries hvalue hentries
    exact ⟨t, (steps_skipSpace s).trans ht, hdeep⟩

end

/-- A count of texts with a property, in which every opening character is counted where it opens. -/
structure Counts (I : Text → Prop) (count : Text → Nat) : Prop where
  steps : ∀ s t, I s → Steps s t → I t ∧ count t ≤ count s
  opening : ∀ c s, isOpening c = true → I (c :: s) → count s < count (c :: s)

section
variable {I : Text → Prop} {count : Text → Nat}

theorem lt_of_tooDeep (hcount : Counts I count) {n : Nat} (hs : I s)
    (h : TooDeep (readValue n s)) : n < count s := by
  -- By induction on the depth: each level takes an opening character, and what is read within it is
  -- an end of the text behind that character.
  induction n generalizing s with
  | zero =>
    rcases readValue_cases 0 s with ⟨hflat, -⟩ | ⟨c, t, rfl, hc⟩
    · exact absurd h hflat
    · exact (Nat.zero_le _).trans_lt (hcount.opening c t hc hs)
  | succ n ih =>
    rcases readValue_cases (n + 1) s with ⟨hflat, -⟩ | ⟨c, t, rfl, hc⟩
    · exact absurd h hflat
    · have hinner : ∃ u, Steps t u ∧ TooDeep (readValue n u) := by
        have hvalue := advances_readValue n
        rcases readValue_opening n hc t with heq | heq
        · exact exists_steps_of_readArray hvalue (heq ▸ h)
        · exact exists_steps_of_readObject hvalue (heq ▸ h)
      obtain ⟨u, hu, hdeep⟩ := hinner
      have hquote : c ≠ '"' := by
        rintro rfl
        cases hc
      have ht : I t := (hcount.steps _ _ hs (.cons hquote t)).1
      obtain ⟨hIu, hle⟩ := hcount.steps t u ht hu
      have hlt : n < count u := ih hIu hdeep
      have hopen : count t < count (c :: t) := hcount.opening c t hc hs
      omega

end

theorem counts_countP : Counts (fun _ => True) (List.countP isOpening) where
  steps s t _ h := ⟨trivial, h.suffix.sublist.countP_le⟩
  opening c s hc _ := by
    rw [List.countP_cons_of_pos hc]
    exact Nat.lt_succ_self _

/-- The opening characters after which quotation marks come in pairs, so that they stand in no
string. -/
def bareOpenings : Text → Nat
  | [] => 0
  | c :: s => (if isOpening c && s.count '"' % 2 == 0 then 1 else 0) + bareOpenings s

theorem bareOpenings_le_append (a s : Text) : bareOpenings s ≤ bareOpenings (a ++ s) := by
  induction a with
  | nil => exact Nat.le_refl _
  | cons c a ih => exact ih.trans (Nat.le_add_left ..)

theorem counts_bareOpenings :
    Counts (fun s => '\\' ∉ s ∧ s.count '"' % 2 = 0) bareOpenings where
  steps s t hs h := by
    obtain ⟨a, rfl, ha⟩ := h
    obtain ⟨hescape, heven⟩ := hs
    rw [List.mem_append, not_or] at hescape
    rw [List.count_append] at heven
    have ha := ha hescape.1
    exact ⟨⟨hescape.2, by omega⟩, bareOpenings_le_append a t⟩
  opening c s hc hs := by
    have hquote : c ≠ '"' := by
      rintro rfl
      cases hc
    have heven : s.count '"' % 2 = 0 := by
      rw [← List.count_cons_of_ne hquote]
      exact hs.2
    rw [bareOpenings, hc, heven]
    exact Nat.lt_add_of_pos_left Nat.one_pos

theorem tooDeep_readArray {value : Text → Result (Value × Text)} (hs : StartsValue s)
    (h : TooDeep (value s)) : TooDeep (readArray value s) := by
  have hspace : skipSpace s = s := by simpa using skipSpace_of_startsValue hs []
  obtain ⟨c, t, rfl, -, -, hclose, -⟩ := hs
  rw [readArray, hspace]
  split
  · next heq => exact absurd (List.cons.inj heq).1 hclose
  · rw [readItems]
    exact tooDeep_bind_iff.mpr (.inl (tooDeep_bind_iff.mpr (.inl h)))

theorem tooDeep_replicate (n : Nat) (rest : Text) :
    TooDeep (readValue n (List.replicate (n + 1) '[' ++ rest)) := by
  induction n with
  | zero => exact tooDeep_opening rfl rest
  | succ n ih =>
    have hstarts : StartsValue (List.replicate (n + 1) '[' ++ rest) :=
      ⟨'[', List.replicate n '[' ++ rest, rfl, by decide, by decide, by decide, by decide⟩
    exact tooDeep_readArray hstarts ih

theorem tooDeep_read_iff :
    TooDeep (read s) ↔
      s.head? ≠ some (Char.ofNat 0xFEFF) ∧ TooDeep (readValue maxDepth (skipSpace s)) := by
  rw [read]
  by_cases hmark : s.head? = some (Char.ofNat 0xFEFF)
  · rw [if_pos (beq_iff_eq.mpr hmark)]
    constructor
    · exact fun h => absurd h (not_tooDeep_fail (by decide) s)
    · exact fun h => absurd hmark h.1
  · rw [if_neg (mt beq_iff_eq.mp hmark)]
    constructor
    · intro h
      refine ⟨hmark, ?_⟩
      rcases tooDeep_bind_iff.mp h with hdeep | ⟨⟨v, rest⟩, -, h⟩
      · exact hdeep
      · dsimp only at h
        split at h
        · exact absurd h (not_tooDeep_ok v)
        · exact absurd h (not_tooDeep_fail (by decide) _)
    · exact fun h => tooDeep_bind_iff.mpr (.inl h.2)

theorem lt_of_tooDeep_read {I : Text → Prop} {count : Text → Nat} (hcount : Counts I count)
    (hs : I s) (h : TooDeep (read s)) : maxDepth < count s := by
  obtain ⟨hspace, hle⟩ := hcount.steps s _ hs (steps_skipSpace s)
  exact (lt_of_tooDeep hcount hspace (tooDeep_read_iff.mp h).2).trans_le hle

theorem tooDeep_read_replicate {n : Nat} (hn : maxDepth < n) (rest : Text) :
    TooDeep (read (List.replicate n '[' ++ rest)) := by
  obtain ⟨k, rfl⟩ : ∃ k, n = maxDepth + 1 + k := ⟨n - (maxDepth + 1), by omega⟩
  rw [← List.replicate_append_replicate, List.append_assoc]
  refine tooDeep_read_iff.mpr ⟨?_, ?_⟩
  · rw [List.replicate_succ, List.cons_append, List.head?_cons]
    decide
  · have hspace : skipSpace (List.replicate (maxDepth + 1) '[' ++ (List.replicate k '[' ++ rest)) =
        List.replicate (maxDepth + 1) '[' ++ (List.replicate k '[' ++ rest) :=
      skipSpace_cons (by decide) _
    rw [hspace]
    exact tooDeep_replicate maxDepth _

end LitNote.Json
