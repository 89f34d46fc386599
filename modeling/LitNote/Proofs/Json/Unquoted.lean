import LitNote.Proofs.Failure
import LitNote.Proofs.Json.RoundTrip
import Mathlib.Data.List.TakeWhile

/-!
JSON without quotation marks.  There is no vertical bar in it, and reading that stops at one has
opened no more lists than there are brackets before it.
-/

namespace LitNote.Json

def Reads (P : Char → Bool) (s rest : Text) : Prop :=
  ∃ read, (∀ c ∈ read, P c = true) ∧ s = read ++ rest

structure HasScalars (P : Char → Bool) : Prop where
  digit : ∀ c, Text.isAsciiDigit c = true → P c = true
  other : ∀ c ∈ "+-.eEnultrfasNIiy".toList, P c = true

section
variable {P : Char → Bool} {s t rest : Text}

namespace Reads

theorem refl (s : Text) : Reads P s s := ⟨[], fun _ h => absurd h List.not_mem_nil, rfl⟩

theorem trans (hs : Reads P s t) (ht : Reads P t rest) : Reads P s rest := by
  obtain ⟨a, ha, rfl⟩ := hs
  obtain ⟨b, hb, rfl⟩ := ht
  refine ⟨a ++ b, fun c hc => ?_, (List.append_assoc ..).symm⟩
  obtain hc | hc := List.mem_append.mp hc
  · exact ha c hc
  · exact hb c hc

theorem cons {c : Char} (hc : P c = true) (h : Reads P s rest) : Reads P (c :: s) rest := by
  obtain ⟨a, ha, rfl⟩ := h
  exact ⟨c :: a, List.forall_mem_cons.mpr ⟨hc, ha⟩, rfl⟩

theorem not_mem (h : Reads P s rest) {c : Char} (hc : c ∉ s) : c ∉ rest := by
  obtain ⟨a, -, rfl⟩ := h
  exact fun h => hc (List.mem_append_right a h)

end Reads

theorem reads_dropWhile {p : Char → Bool} (hp : ∀ c, p c = true → P c = true) (s : Text) :
    Reads P s (s.dropWhile p) :=
  ⟨s.takeWhile p, fun c hc => hp c (List.mem_takeWhile_imp hc),
    List.takeWhile_append_dropWhile.symm⟩

section
variable (hP : HasScalars P)
include hP

theorem reads_readPlaces {ds : Text} (h : readPlaces s = some (ds, rest)) : Reads P s rest := by
  rw [readPlaces.eq_def] at h
  split at h
  · split at h
    · cases h
      exact .cons (hP.other _ (by decide)) (reads_dropWhile hP.digit _)
    · cases h
  · cases h

theorem reads_sign (s : Text) : Reads P s (Integer.sign s).2 := by
  rw [Integer.sign.eq_def]
  split
  · exact .cons (hP.other _ (by decide)) (.refl _)
  · exact .cons (hP.other _ (by decide)) (.refl _)
  · exact .refl _

theorem reads_readExponent {n : Int} (h : readExponent s = some (n, rest)) : Reads P s rest := by
  cases s with
  | nil => cases h
  | cons c s =>
    rw [readExponent] at h
    split at h
    · next he =>
      have hc : P c = true := by
        rw [Bool.or_eq_true, beq_iff_eq, beq_iff_eq] at he
        obtain rfl | rfl := he
        · exact hP.other _ (by decide)
        · exact hP.other _ (by decide)
      dsimp only at h
      split at h
      · cases h
      · next heq =>
        cases h
        have hdigits := reads_dropWhile hP.digit (Integer.sign s).2
        rw [spanDigits, Prod.mk.injEq] at heq
        rw [heq.2] at hdigits
        exact .cons hc ((reads_sign hP s).trans hdigits)
    · cases h

theorem reads_finishNumber {start whole after : Text} {negative : Bool} {v : Value}
    (h : finishNumber start negative whole after = .ok (v, rest)) : Reads P after rest := by
  have hplaces : Reads P after (((readPlaces after).map (·.2)).getD after) := by
    cases hp : readPlaces after with
    | none => exact .refl after
    | some places => exact reads_readPlaces hP hp
  rw [finishNumber] at h
  dsimp only at h
  split at h
  · split at h
    · cases h
    · cases h
      exact .refl _
  · cases h
    cases he : readExponent (((readPlaces after).map (·.2)).getD after) with
    | none => exact hplaces
    | some e => exact hplaces.trans (reads_readExponent hP he)

theorem reads_readUnsigned {start : Text} {negative : Bool} {v : Value}
    (h : readUnsigned start negative s = .ok (v, rest)) :
    ∃ c t, s = c :: t ∧ P c = true ∧ Reads P t rest := by
  rw [readUnsigned.eq_def] at h
  split at h
  · cases h
  · exact ⟨_, _, rfl, hP.digit _ (by decide), reads_finishNumber hP h⟩
  · next c s _ =>
    split at h
    · next hc =>
      have hdigits : Reads P s ((c :: s).dropWhile Text.isAsciiDigit) := by
        rw [List.dropWhile_cons_of_pos hc]
        exact reads_dropWhile hP.digit s
      exact ⟨c, s, rfl, hP.digit c hc, hdigits.trans (reads_finishNumber hP h)⟩
    · cases h

theorem reads_readNumber {v : Value} (h : readNumber s = .ok (v, rest)) :
    ∃ c t, s = c :: t ∧ P c = true ∧ Reads P t rest := by
  rw [readNumber.eq_def] at h
  split at h
  · obtain ⟨c, t, rfl, hc, ht⟩ := reads_readUnsigned hP h
    exact ⟨_, _, rfl, hP.other _ (by decide), .cons hc ht⟩
  · exact reads_readUnsigned hP h

theorem reads_readScalar {v : Value} (h : readScalar s = .ok (v, rest)) :
    ∃ c t, s = c :: t ∧ P c = true ∧ Reads P t rest := by
  have hwords : ∀ word ∈ words.map (·.1), word ≠ [] ∧ word ⊆ "+-.eEnultrfasNIiy".toList := by
    decide
  rw [readScalar] at h
  split at h
  · next word w hfind =>
    cases h
    obtain ⟨hne, hmem⟩ := hwords word (List.mem_map_of_mem (List.mem_of_find?_eq_some hfind))
    have hstart := List.find?_some hfind
    dsimp only at hstart
    obtain ⟨t, rfl⟩ := List.isPrefixOf_iff_prefix.mp hstart
    obtain ⟨c, word, rfl⟩ := List.exists_cons_of_ne_nil hne
    rw [List.cons_subset] at hmem
    rw [List.drop_left]
    exact ⟨c, word ++ t, rfl, hP.other c hmem.1, word, fun d hd => hP.other d (hmem.2 hd), rfl⟩
  · exact reads_readNumber hP h

end

def isNoBar (c : Char) : Bool := c != '|'

theorem bar_not_mem {a : Text} (h : ∀ c ∈ a, isNoBar c = true) : '|' ∉ a :=
  fun hmem => absurd (h '|' hmem) (by decide)

theorem hasScalars_isNoBar : HasScalars isNoBar where
  digit c hc := by
    rw [isNoBar, bne_iff_ne]
    rintro rfl
    cases hc
  other := List.all_eq_true.mp (by decide)

theorem reads_skipSpace (s : Text) : Reads isNoBar s (skipSpace s) := by
  refine reads_dropWhile (fun c hc => ?_) s
  rw [isNoBar, bne_iff_ne]
  rintro rfl
  cases hc

theorem reads_of_readScalar {v : Value} (h : readScalar s = .ok (v, rest)) :
    Reads isNoBar s rest := by
  obtain ⟨c, t, rfl, hc, ht⟩ := reads_readScalar hasScalars_isNoBar h
  exact .cons hc ht

variable {value : Text → Result (Value × Text)}

def ReadsAll (value : Text → Result (Value × Text)) : Prop :=
  ∀ s v rest, '"' ∉ s → value s = .ok (v, rest) → Reads isNoBar s rest

theorem reads_readItems (hvalue : ReadsAll value) (hs : '"' ∉ s) {fuel : Nat} {vs : List Value}
    (h : readItems value fuel s = .ok (vs, rest)) : Reads isNoBar s rest := by
  induction fuel generalizing s vs with
  | zero => cases h
  | succ fuel ih =>
    obtain ⟨_, v, after, hfuel, hv, hcases⟩ := readItems_cases h
    cases hfuel
    have hafter := (hvalue s v after hs hv).trans (reads_skipSpace after)
    obtain ⟨heq, -⟩ | ⟨t, ws, heq, hws, -⟩ := hcases
    · rw [heq] at hafter
      exact hafter.trans (.cons (by decide) (.refl _))
    · rw [heq] at hafter
      have hmore := hafter.trans (Reads.cons (by decide) (reads_skipSpace t))
      exact hmore.trans (ih (hmore.not_mem hs) hws)

theorem reads_readArray (hvalue : ReadsAll value) (hs : '"' ∉ s) {v : Value}
    (h : readArray value s = .ok (v, rest)) : Reads isNoBar s rest := by
  have hspace := reads_skipSpace s
  obtain ⟨heq, -⟩ | ⟨_, _, hitems, -⟩ := readArray_cases h
  · rw [heq] at hspace
    exact hspace.trans (.cons (by decide) (.refl _))
  · exact hspace.trans (reads_readItems hvalue (hspace.not_mem hs) hitems)

theorem readEntry_eq_error (hs : '"' ∉ s) : readEntry value s = fail .noKey s := by
  rw [readEntry.eq_def]
  split
  · exact absurd (List.mem_cons_self ..) hs
  · rfl

theorem readObject_cases (value : Text → Result (Value × Text)) (hs : '"' ∉ s) :
    (∃ rest, readObject value s = .ok (.record [], rest) ∧ Reads isNoBar s rest) ∨
      ∃ f, readObject value s = .error f ∧ f.cause = .noKey := by
  have hspace := reads_skipSpace s
  rw [readObject.eq_def]
  split
  · next rest heq =>
    rw [heq] at hspace
    exact .inl ⟨rest, rfl, hspace.trans (.cons (by decide) (.refl _))⟩
  · rw [readEntries, readEntry_eq_error (hspace.not_mem hs)]
    exact .inr ⟨_, rfl, rfl⟩

theorem readValue_nil (n : Nat) : readValue n [] = fail .noValue [] := by
  cases n <;> rfl

theorem readsAll_readValue (n : Nat) : ReadsAll (readValue n) := by
  induction n with
  | zero =>
    intro s v rest hs h
    cases s with
    | nil =>
      rw [readValue_nil] at h
      cases h
    | cons c s =>
      by_cases hopen : c = '[' ∨ c = '{'
      · obtain rfl | rfl := hopen <;> cases h
      · rw [not_or] at hopen
        have hquote : c ≠ '"' := fun h => hs (h ▸ List.mem_cons_self ..)
        rw [readValue_eq_readScalar 0 hquote hopen.1 hopen.2] at h
        exact reads_of_readScalar h
  | succ n ih =>
    intro s v rest hs h
    cases s with
    | nil =>
      rw [readValue_nil] at h
      cases h
    | cons c s =>
      have hs' : '"' ∉ s := fun h => hs (List.mem_cons_of_mem c h)
      have hquote : c ≠ '"' := fun h => hs (h ▸ List.mem_cons_self ..)
      by_cases hlist : c = '['
      · subst hlist
        exact .cons (by decide) (reads_readArray ih hs' h)
      by_cases hrecord : c = '{'
      · subst hrecord
        have hobject : readObject (readValue n) s = .ok (v, rest) := h
        obtain ⟨after, hok, hreads⟩ | ⟨f, herror, -⟩ := readObject_cases (readValue n) hs'
        · rw [hok] at hobject
          cases hobject
          exact .cons (by decide) hreads
        · rw [herror] at hobject
          cases hobject
      · rw [readValue_eq_readScalar (n + 1) hquote hlist hrecord] at h
        exact reads_of_readScalar h

theorem not_mem_of_read {v : Value} (hs : '"' ∉ s) (h : read s = .ok v) : '|' ∉ s := by
  have hspace := reads_skipSpace s
  rw [read] at h
  split at h
  · cases h
  obtain ⟨⟨w, rest⟩, hw, h⟩ := Failure.bind_eq_ok_iff.mp h
  have hrest := (hspace.trans (readsAll_readValue maxDepth _ _ _ (hspace.not_mem hs) hw)).trans
    (reads_skipSpace rest)
  dsimp only at h
  split at h
  · next heq =>
    rw [heq] at hrest
    obtain ⟨a, ha, rfl⟩ := hrest
    rw [List.append_nil]
    exact bar_not_mem ha
  · cases h

theorem Reads.before {a b : Text} (h : Reads isNoBar (a ++ '|' :: b) t) :
    ∃ a', t = a' ++ '|' :: b ∧ a'.count '[' ≤ a.count '[' := by
  obtain ⟨c, hc, heq⟩ := h
  obtain ⟨c', rfl, hb⟩ | ⟨a', rfl, rfl⟩ := List.append_eq_append_iff.mp heq
  · cases c' with
    | nil => exact ⟨[], hb.symm, Nat.zero_le _⟩
    | cons d c' =>
      cases hb
      exact absurd (List.mem_append_right a (List.mem_cons_self ..)) (bar_not_mem hc)
  · refine ⟨a', rfl, ?_⟩
    rw [List.count_append]
    exact Nat.le_add_left ..

def TooDeep {α : Type} (r : Result α) : Prop := ∃ f, r = .error f ∧ f.cause = .tooDeep

theorem not_tooDeep_fail {α : Type} {cause : Cause} (hcause : cause ≠ .tooDeep) (s : Text) :
    ¬TooDeep (fail cause s : Result α) := by
  rintro ⟨f, hf, hdeep⟩
  cases hf
  exact hcause hdeep

theorem not_tooDeep_finishNumber (start : Text) (negative : Bool) (whole after : Text) :
    ¬TooDeep (finishNumber start negative whole after) := by
  rintro ⟨f, hf, hdeep⟩
  rw [finishNumber] at hf
  dsimp only at hf
  split at hf
  · split at hf
    · cases hf
      cases hdeep
    · cases hf
  · cases hf

theorem not_tooDeep_readUnsigned (start : Text) (negative : Bool) (s : Text) :
    ¬TooDeep (readUnsigned start negative s) := by
  rw [readUnsigned.eq_def]
  split
  · exact not_tooDeep_fail (by decide) _
  · exact not_tooDeep_finishNumber _ _ _ _
  · split
    · exact not_tooDeep_finishNumber _ _ _ _
    · exact not_tooDeep_fail (by decide) _

theorem not_tooDeep_readScalar (s : Text) : ¬TooDeep (readScalar s) := by
  rw [readScalar]
  split
  · rintro ⟨f, hf, -⟩
    cases hf
  · rw [readNumber.eq_def]
    split
    · exact not_tooDeep_readUnsigned _ _ _
    · exact not_tooDeep_readUnsigned _ _ _

theorem not_tooDeep_ok {α : Type} (a : α) : ¬TooDeep (.ok a : Result α) := by
  rintro ⟨f, hf, -⟩
  cases hf

theorem tooDeep_bind_iff {α β : Type} {x : Result α} {f : α → Result β} :
    TooDeep (x >>= f) ↔ TooDeep x ∨ ∃ a, x = .ok a ∧ TooDeep (f a) := by
  constructor
  · rintro ⟨g, hg, hcause⟩
    rcases Failure.bind_eq_error_iff.mp hg with hx | ⟨a, ha, hf⟩
    · exact .inl ⟨g, hx, hcause⟩
    · exact .inr ⟨a, ha, g, hf, hcause⟩
  · rintro (⟨g, hg, hcause⟩ | ⟨a, ha, g, hg, hcause⟩)
    · exact ⟨g, Failure.bind_eq_error_iff.mpr (.inl hg), hcause⟩
    · exact ⟨g, Failure.bind_eq_error_iff.mpr (.inr ⟨a, ha, hg⟩), hcause⟩

theorem TooDeep.of_bind {α β : Type} {x : Result α} {f : α → Result β} (h : TooDeep (x >>= f))
    (hf : ∀ a, ¬TooDeep (f a)) : TooDeep x := by
  rcases tooDeep_bind_iff.mp h with hx | ⟨a, -, ha⟩
  · exact hx
  · exact absurd ha (hf a)

theorem exists_tooDeep_of_readItems {P : Text → Prop}
    (hnext : ∀ u v after rest, P u → value u = .ok (v, after) → skipSpace after = ',' :: rest →
      P (skipSpace rest)) {fuel : Nat} (hs : P s) (h : TooDeep (readItems value fuel s)) :
    ∃ t, P t ∧ TooDeep (value t) := by
  induction fuel generalizing s with
  | zero => exact absurd h (not_tooDeep_fail (by decide) _)
  | succ fuel ih =>
    rw [readItems] at h
    obtain hdeep | ⟨⟨v, after⟩, hv, h⟩ := tooDeep_bind_iff.mp h
    · exact ⟨s, hs, hdeep⟩
    · dsimp only at h
      split at h
      · exact absurd h (not_tooDeep_ok _)
      · next rest heq =>
        have hmore := h.of_bind fun _ => not_tooDeep_ok _
        exact ih (hnext s v after rest hs hv heq) hmore
      · exact absurd h (not_tooDeep_fail (by decide) _)

theorem exists_tooDeep_of_readArray (hvalue : ReadsAll value) (hs : '"' ∉ s)
    (h : TooDeep (readArray value s)) : ∃ t, Reads isNoBar s t ∧ TooDeep (value t) := by
  have hnext : ∀ u v after rest, Reads isNoBar s u → value u = .ok (v, after) →
      skipSpace after = ',' :: rest → Reads isNoBar s (skipSpace rest) := by
    intro u v after rest hu hv heq
    have hafter := (hvalue u v after (hu.not_mem hs) hv).trans (reads_skipSpace after)
    rw [heq] at hafter
    exact hu.trans (hafter.trans (.cons (by decide) (reads_skipSpace rest)))
  rw [readArray] at h
  split at h
  · exact absurd h (not_tooDeep_ok _)
  · have hitems := h.of_bind fun _ => not_tooDeep_ok _
    exact exists_tooDeep_of_readItems hnext (reads_skipSpace s) hitems

theorem le_count_of_tooDeep {n : Nat} {a b : Text} (hs : '"' ∉ a ++ '|' :: b)
    (h : TooDeep (readValue n (a ++ '|' :: b))) : n ≤ a.count '[' := by
  -- By induction on the depth: every list that is opened takes a bracket before the bar.
  induction n generalizing a with
  | zero => exact Nat.zero_le _
  | succ n ih =>
    cases a with
    | nil =>
      have hscalar : readValue (n + 1) ('|' :: b) = readScalar ('|' :: b) :=
        readValue_eq_readScalar (n + 1) (by decide) (by decide) (by decide) b
      rw [List.nil_append, hscalar] at h
      exact absurd h (not_tooDeep_readScalar _)
    | cons c a =>
      have hs' : '"' ∉ a ++ '|' :: b := fun h => hs (List.mem_cons_of_mem c h)
      have hquote : c ≠ '"' := fun h => hs (h ▸ List.mem_cons_self ..)
      by_cases hlist : c = '['
      · subst hlist
        have harray : TooDeep (readArray (readValue n) (a ++ '|' :: b)) := h
        obtain ⟨t, ht, hdeep⟩ := exists_tooDeep_of_readArray (readsAll_readValue n) hs' harray
        obtain ⟨a', rfl, hcount⟩ := ht.before
        have hn := ih (ht.not_mem hs') hdeep
        rw [List.count_cons_self]
        omega
      by_cases hrecord : c = '{'
      · subst hrecord
        have hobject : TooDeep (readObject (readValue n) (a ++ '|' :: b)) := h
        obtain ⟨f, hf, hcause⟩ := hobject
        obtain ⟨after, hok, -⟩ | ⟨g, herror, hkey⟩ := readObject_cases (readValue n) hs'
        · rw [hok] at hf
          cases hf
        · rw [herror] at hf
          cases hf
          rw [hkey] at hcause
          cases hcause
      · rw [List.cons_append, readValue_eq_readScalar (n + 1) hquote hlist hrecord] at h
        exact absurd h (not_tooDeep_readScalar _)

theorem read_of_bar {a b : Text} (hs : '"' ∉ a ++ '|' :: b) (hcount : a.count '[' < maxDepth) :
    ∃ f, read (a ++ '|' :: b) = .error f ∧ f.cause ≠ .tooDeep := by
  cases h : read (a ++ '|' :: b) with
  | ok v =>
    exact absurd (List.mem_append_right a (List.mem_cons_self ..)) (not_mem_of_read hs h)
  | error f =>
    refine ⟨f, rfl, fun hcause => ?_⟩
    have hspace := reads_skipSpace (a ++ '|' :: b)
    rw [read] at h
    split at h
    · cases h
      cases hcause
    cases hv : readValue maxDepth (skipSpace (a ++ '|' :: b)) with
    | ok r =>
      rw [hv] at h
      simp only [bind, Except.bind] at h
      split at h
      · cases h
      · cases h
        cases hcause
    | error g =>
      rw [hv] at h
      cases h
      obtain ⟨a', heq, hle⟩ := hspace.before
      rw [heq] at hv
      have hquote : '"' ∉ a' ++ '|' :: b := heq ▸ hspace.not_mem hs
      have hdeep := le_count_of_tooDeep hquote ⟨f, hv, hcause⟩
      omega

end

end LitNote.Json
