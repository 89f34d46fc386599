import LitNote.Proofs.Json.Shape
import LitNote.Proofs.Json.Unquoted

/-!
How far reading gets.  What it leaves is an end of the text, and without escapes the quotation marks
before that come in pairs.  Main statement: no list has a comma before its closing bracket.
-/

namespace LitNote.Json

variable {s t rest : Text} {v : Value}

/-- From a text to an end of it.  Without escapes, the quotation marks between come in pairs. -/
def Steps (s rest : Text) : Prop :=
  ∃ read, s = read ++ rest ∧ ('\\' ∉ read → read.count '"' % 2 = 0)

namespace Steps

theorem refl (s : Text) : Steps s s := ⟨[], rfl, fun _ => rfl⟩

theorem trans (hs : Steps s t) (ht : Steps t rest) : Steps s rest := by
  obtain ⟨a, rfl, ha⟩ := hs
  obtain ⟨b, rfl, hb⟩ := ht
  refine ⟨a ++ b, (List.append_assoc ..).symm, fun hescape => ?_⟩
  rw [List.mem_append, not_or] at hescape
  have hcount : (a ++ b).count '"' = a.count '"' + b.count '"' := List.count_append
  have ha := ha hescape.1
  have hb := hb hescape.2
  omega

theorem cons {c : Char} (hc : c ≠ '"') (s : Text) : Steps (c :: s) s :=
  ⟨[c], rfl, fun _ => by rw [List.count_singleton, beq_false_of_ne hc]; rfl⟩

theorem suffix (h : Steps s rest) : rest <:+ s := by
  obtain ⟨a, rfl, -⟩ := h
  exact List.suffix_append a rest

theorem of_reads {P : Char → Bool} (hP : P '"' = false) (h : Reads P s rest) : Steps s rest := by
  obtain ⟨a, ha, rfl⟩ := h
  refine ⟨a, rfl, fun _ => ?_⟩
  have hquote : '"' ∉ a := fun hmem => by
    have hchar := ha '"' hmem
    rw [hP] at hchar
    cases hchar
  rw [List.count_eq_zero.mpr hquote]

end Steps

theorem steps_skipSpace (s : Text) : Steps s (skipSpace s) :=
  .of_reads rfl (reads_dropWhile (fun _ hc => hc) s)

theorem steps_of_skipSpace {c : Char} (h : skipSpace s = c :: rest) : Steps s (c :: rest) :=
  h ▸ steps_skipSpace s

def isEnd (c : Char) : Bool := c != ',' && !Text.isBlank c

structure Leaves (s rest : Text) : Prop where
  steps : Steps s rest
  last : ∃ c, isEnd c = true ∧ c :: rest <:+ s

theorem Leaves.of_steps {c : Char} (hc : isEnd c = true) (hquote : c ≠ '"')
    (h : Steps s (c :: rest)) : Leaves s rest :=
  ⟨h.trans (.cons hquote rest), c, hc, h.suffix⟩

theorem Leaves.mono (hs : Steps s t) (h : Leaves t rest) : Leaves s rest := by
  obtain ⟨c, hc, hsuffix⟩ := h.last
  exact ⟨hs.trans h.steps, c, hc, hsuffix.trans hs.suffix⟩

theorem hasScalars_isEnd : HasScalars fun c => isEnd c && c != '"' where
  digit c hc := by
    rw [isEnd, Text.isBlank_of_isAsciiDigit hc, Bool.not_false, Bool.and_true, Bool.and_eq_true,
      bne_iff_ne, bne_iff_ne]
    constructor
    · rintro rfl
      cases hc
    · rintro rfl
      cases hc
  other := List.all_eq_true.mp (by decide)

theorem leaves_of_readScalar (h : readScalar s = .ok (v, rest)) : Leaves s rest := by
  obtain ⟨c, t, rfl, hc, hread⟩ := reads_readScalar hasScalars_isEnd h
  refine ⟨.of_reads rfl (.cons hc hread), ?_⟩
  obtain ⟨a, ha, rfl⟩ := hread
  obtain rfl | ⟨a, d, rfl⟩ := List.eq_nil_or_concat a
  · exact ⟨c, (Bool.and_eq_true_iff.mp hc).1, List.suffix_refl _⟩
  · exact ⟨d, (Bool.and_eq_true_iff.mp (ha d (by simp))).1, c :: a, by simp⟩

theorem exists_of_readChars {opened skip : Nat} (h : readChars opened skip s = .ok (t, rest)) :
    ∃ a, s = a ++ '"' :: rest ∧ (skip = 0 → '\\' ∉ a → '"' ∉ a) := by
  have hescaped {e : Char} {a : Text} (he : e = '\\') : '\\' ∉ e :: a → '"' ∉ e :: a :=
    fun hnot => absurd (he ▸ List.mem_cons_self ..) hnot
  -- The cases follow the reader: after the end, a pass over an escape and the closing quote come
  -- the two kinds of escapes, and then characters that stand for themselves.
  fun_induction readChars opened skip s generalizing t with
  | case1 => cases h
  | case2 skip c s ih =>
    obtain ⟨a, rfl, -⟩ := ih h
    exact ⟨c :: a, rfl, fun hskip => absurd hskip (Nat.succ_ne_zero skip)⟩
  | case3 s =>
    cases h
    exact ⟨[], rfl, fun _ _ => List.not_mem_nil⟩
  | case4 => cases h
  | case5 s ih =>
    obtain ⟨⟨c, length⟩, -, h⟩ := Failure.bind_eq_ok_iff.mp h
    obtain ⟨⟨u, after⟩, hread, h⟩ := Failure.bind_eq_ok_iff.mp h
    cases h
    obtain ⟨a, heq, -⟩ := ih length hread
    exact ⟨'\\' :: a, by rw [heq]; rfl, fun _ => hescaped rfl⟩
  | case6 e s => cases h
  | case7 e s _ c _ ih =>
    obtain ⟨⟨u, after⟩, hread, h⟩ := Failure.bind_eq_ok_iff.mp h
    cases h
    obtain ⟨a, heq, -⟩ := ih hread
    exact ⟨'\\' :: a, by rw [heq]; rfl, fun _ => hescaped rfl⟩
  | case8 c s => cases h
  | case9 c s hquote _ _ ih =>
    obtain ⟨⟨u, after⟩, hread, h⟩ := Failure.bind_eq_ok_iff.mp h
    cases h
    obtain ⟨a, rfl, ha⟩ := ih hread
    refine ⟨c :: a, rfl, fun hskip hescape => ?_⟩
    rw [List.mem_cons, not_or] at hescape ⊢
    exact ⟨fun heq => hquote heq.symm, ha hskip hescape.2⟩

theorem leaves_of_readString (h : readString s = .ok (t, rest)) : Leaves ('"' :: s) rest := by
  obtain ⟨a, rfl, ha⟩ := exists_of_readChars h
  refine ⟨⟨'"' :: (a ++ ['"']), by simp, fun hescape => ?_⟩, '"', by decide, '"' :: a, rfl⟩
  have hquote : '"' ∉ a := ha rfl fun hmem => hescape (by simp [hmem])
  rw [List.count_cons_self, List.count_append, List.count_eq_zero.mpr hquote]
  rfl

theorem not_tooDeep_readCode (s : Text) : ¬TooDeep (readCode s) := by
  have hcode : (Cause.badCode : Cause) ≠ .tooDeep := by decide
  rw [readCode.eq_def]
  repeat' split
  all_goals first | exact not_tooDeep_fail hcode _ | exact not_tooDeep_ok _

theorem not_tooDeep_readChars (opened skip : Nat) (s : Text) :
    ¬TooDeep (readChars opened skip s) := by
  have hunterminated : ¬TooDeep (.error ⟨.unterminated, opened⟩ : Result (Text × Text)) := by
    rintro ⟨f, hf, hcause⟩
    cases hf
    cases hcause
  fun_induction readChars opened skip s with
  | case1 => exact hunterminated
  | case2 skip c s ih => exact ih
  | case3 s => exact not_tooDeep_ok _
  | case4 => exact hunterminated
  | case5 s ih =>
    intro h
    rcases tooDeep_bind_iff.mp h with hcode | ⟨⟨c, length⟩, -, h⟩
    · exact not_tooDeep_readCode _ hcode
    · exact ih length (h.of_bind fun _ => not_tooDeep_ok _)
  | case6 e s => exact not_tooDeep_fail (by decide) _
  | case7 e s _ c _ ih =>
    intro h
    exact ih (h.of_bind fun _ => not_tooDeep_ok _)
  | case8 c s => exact not_tooDeep_fail (by decide) _
  | case9 c s _ _ _ ih =>
    intro h
    exact ih (h.of_bind fun _ => not_tooDeep_ok _)

theorem readEntry_cases (value : Text → Result (Value × Text)) (s : Text) :
    (∃ f, readEntry value s = .error f ∧ f.cause ≠ .tooDeep) ∨
      ∃ key t, Steps s t ∧
        readEntry value s = value t >>= fun (v, rest) => pure ((.text key, v), rest) := by
  rw [readEntry.eq_def]
  split
  · next u =>
    cases hkey : readString u with
    | error f =>
      exact .inl ⟨f, rfl, fun hcause => not_tooDeep_readChars _ _ _ ⟨f, hkey, hcause⟩⟩
    | ok r =>
      obtain ⟨key, w⟩ := r
      have hw : Steps ('"' :: u) w := (leaves_of_readString hkey).steps
      simp only [bind, Except.bind]
      split
      · next after heq =>
        have hcolon : Steps ('"' :: u) after :=
          (hw.trans (steps_of_skipSpace heq)).trans (.cons (by decide) after)
        exact .inr ⟨key, skipSpace after, hcolon.trans (steps_skipSpace after), rfl⟩
      · exact .inl ⟨_, rfl, Cause.noConfusion⟩
  · exact .inl ⟨_, rfl, Cause.noConfusion⟩

/-- A reader of values that goes forward in the text. -/
def Advances (value : Text → Result (Value × Text)) : Prop :=
  ∀ s v rest, value s = .ok (v, rest) → Leaves s rest

section
variable {value : Text → Result (Value × Text)} (hvalue : Advances value)
include hvalue

theorem Advances.after {c : Char} {after : Text} (hv : value s = .ok (v, after))
    (h : skipSpace after = c :: rest) : Steps s (c :: rest) :=
  (hvalue s v after hv).steps.trans (steps_of_skipSpace h)

theorem Advances.next {after : Text} (hv : value s = .ok (v, after))
    (h : skipSpace after = ',' :: rest) : Steps s (skipSpace rest) :=
  ((hvalue.after hv h).trans (.cons (by decide) rest)).trans (steps_skipSpace rest)

theorem steps_of_readItems {fuel : Nat} {vs : List Value}
    (h : readItems value fuel s = .ok (vs, rest)) : Steps s (']' :: rest) := by
  induction fuel generalizing s vs with
  | zero => cases h
  | succ fuel ih =>
    obtain ⟨_, v, after, hfuel, hv, hcases⟩ := readItems_cases h
    cases hfuel
    obtain ⟨heq, -⟩ | ⟨t, ws, heq, hws, -⟩ := hcases
    · exact hvalue.after hv heq
    · exact (hvalue.next hv heq).trans (ih hws)

theorem steps_of_readArray (h : readArray value s = .ok (v, rest)) : Steps s (']' :: rest) := by
  obtain ⟨heq, -⟩ | ⟨fuel, vs, hitems, -⟩ := readArray_cases h
  · exact steps_of_skipSpace heq
  · exact (steps_skipSpace s).trans (steps_of_readItems hvalue hitems)

theorem steps_of_readEntry {e : Value × Value} (h : readEntry value s = .ok (e, rest)) :
    Steps s rest := by
  rcases readEntry_cases value s with ⟨f, hf, -⟩ | ⟨key, t, ht, heq⟩
  · rw [hf] at h
    cases h
  · rw [heq] at h
    obtain ⟨⟨v, after⟩, hv, h⟩ := Failure.bind_eq_ok_iff.mp h
    cases h
    exact ht.trans (hvalue t v rest hv).steps

theorem steps_next_of_readEntry {e : Value × Value} {after : Text}
    (h : readEntry value s = .ok (e, after)) (heq : skipSpace after = ',' :: rest) :
    Steps s (skipSpace rest) := by
  have hcomma : Steps s (',' :: rest) :=
    (steps_of_readEntry hvalue h).trans (steps_of_skipSpace heq)
  exact (hcomma.trans (.cons (by decide) rest)).trans (steps_skipSpace rest)

theorem steps_of_readEntries {fuel : Nat} {es : Record}
    (h : readEntries value fuel s = .ok (es, rest)) : Steps s ('}' :: rest) := by
  induction fuel generalizing s es with
  | zero => cases h
  | succ fuel ih =>
    rw [readEntries] at h
    obtain ⟨⟨e, after⟩, he, h⟩ := Failure.bind_eq_ok_iff.mp h
    dsimp only at h
    split at h
    · next heq =>
      cases h
      exact (steps_of_readEntry hvalue he).trans (steps_of_skipSpace heq)
    · next t heq =>
      obtain ⟨⟨fs, u⟩, hfs, h⟩ := Failure.bind_eq_ok_iff.mp h
      cases h
      exact (steps_next_of_readEntry hvalue he heq).trans (ih hfs)
    · cases h

theorem steps_of_readObject (h : readObject value s = .ok (v, rest)) : Steps s ('}' :: rest) := by
  rw [readObject] at h
  split at h
  · next heq =>
    cases h
    exact steps_of_skipSpace heq
  · obtain ⟨⟨es, after⟩, hes, h⟩ := Failure.bind_eq_ok_iff.mp h
    cases h
    exact (steps_skipSpace s).trans (steps_of_readEntries hvalue hes)

end

def isOpening (c : Char) : Bool := c == '[' || c == '{'

theorem readValue_opening (n : Nat) {c : Char} (hc : isOpening c = true) (s : Text) :
    readValue (n + 1) (c :: s) = readArray (readValue n) s ∨
      readValue (n + 1) (c :: s) = readObject (readValue n) s := by
  simp only [isOpening, Bool.or_eq_true, beq_iff_eq] at hc
  rcases hc with rfl | rfl
  · exact .inl rfl
  · exact .inr rfl

theorem tooDeep_opening {c : Char} (hc : isOpening c = true) (s : Text) :
    TooDeep (readValue 0 (c :: s)) := by
  simp only [isOpening, Bool.or_eq_true, beq_iff_eq] at hc
  rcases hc with rfl | rfl
  · exact ⟨_, rfl, rfl⟩
  · exact ⟨_, rfl, rfl⟩

theorem readValue_flat (n : Nat) {c : Char} (hc : isOpening c = false) (s : Text) :
    ¬TooDeep (readValue n (c :: s)) ∧
      ∀ v rest, readValue n (c :: s) = .ok (v, rest) → Leaves (c :: s) rest := by
  by_cases hquote : c = '"'
  · subst hquote
    have htext : readValue n ('"' :: s) = readString s >>= fun r => pure (.text r.1, r.2) := by
      cases n <;> rfl
    rw [htext]
    constructor
    · intro h
      exact not_tooDeep_readChars _ _ _ (h.of_bind fun _ => not_tooDeep_ok _)
    · intro v rest h
      obtain ⟨⟨t, after⟩, ht, h⟩ := Failure.bind_eq_ok_iff.mp h
      cases h
      exact leaves_of_readString ht
  · rw [isOpening, Bool.or_eq_false_iff, beq_eq_false_iff_ne, beq_eq_false_iff_ne] at hc
    rw [readValue_eq_readScalar n hquote hc.1 hc.2]
    exact ⟨not_tooDeep_readScalar _, fun v rest h => leaves_of_readScalar h⟩

theorem readValue_cases (n : Nat) (s : Text) :
    (¬TooDeep (readValue n s) ∧ ∀ v rest, readValue n s = .ok (v, rest) → Leaves s rest) ∨
      ∃ c t, s = c :: t ∧ isOpening c = true := by
  cases s with
  | nil =>
    rw [readValue_nil]
    refine .inl ⟨not_tooDeep_fail (by decide) _, ?_⟩
    intro v rest h
    cases h
  | cons c t =>
    cases hc : isOpening c with
    | false => exact .inl (readValue_flat n hc t)
    | true => exact .inr ⟨c, t, rfl, hc⟩

theorem advances_readValue (n : Nat) : Advances (readValue n) := by
  induction n with
  | zero =>
    intro s v rest h
    rcases readValue_cases 0 s with ⟨-, hflat⟩ | ⟨c, t, rfl, hc⟩
    · exact hflat v rest h
    · rcases tooDeep_opening hc t with ⟨f, hf, -⟩
      rw [hf] at h
      cases h
  | succ n ih =>
    intro s v rest h
    rcases readValue_cases (n + 1) s with ⟨-, hflat⟩ | ⟨c, t, rfl, hc⟩
    · exact hflat v rest h
    · have hrest : Leaves t rest := by
        rcases readValue_opening n hc t with heq | heq
        · exact .of_steps (by decide) (by decide) (steps_of_readArray ih (heq ▸ h))
        · exact .of_steps (by decide) (by decide) (steps_of_readObject ih (heq ▸ h))
      have hquote : c ≠ '"' := by
        rintro rfl
        cases hc
      exact .mono (.cons hquote t) hrest

theorem exists_spaces (s : Text) :
    ∃ w, (∀ c ∈ w, isSpace c = true) ∧ s = w ++ skipSpace s :=
  ⟨s.takeWhile isSpace, fun _ hc => List.mem_takeWhile_imp hc,
    List.takeWhile_append_dropWhile.symm⟩

theorem spaces_of_skipSpace (h : skipSpace s = []) : ∀ c ∈ s, isSpace c = true := by
  obtain ⟨w, hw, hs⟩ := exists_spaces s
  rw [h, List.append_nil] at hs
  rwa [hs]

theorem last_of_readItems {value : Text → Result (Value × Text)} (hvalue : Advances value)
    {fuel : Nat} {vs : List Value} (h : readItems value fuel s = .ok (vs, rest)) :
    ∃ c w, isEnd c = true ∧ (∀ d ∈ w, isSpace d = true) ∧ c :: (w ++ ']' :: rest) <:+ s := by
  -- By induction on the items: the last of them stands before the closing bracket.
  induction fuel generalizing s vs with
  | zero => cases h
  | succ fuel ih =>
    obtain ⟨_, v, after, hfuel, hv, hcases⟩ := readItems_cases h
    cases hfuel
    obtain ⟨c, hc, hsuffix⟩ := (hvalue s v after hv).last
    obtain ⟨w, hw, hafter⟩ := exists_spaces after
    obtain ⟨heq, -⟩ | ⟨t, ws, heq, hws, -⟩ := hcases
    · rw [heq] at hafter
      exact ⟨c, w, hc, hw, hafter ▸ hsuffix⟩
    · obtain ⟨d, u, hd, hu, hlast⟩ := ih hws
      exact ⟨d, u, hd, hu, hlast.trans (hvalue.next hv heq).suffix⟩

theorem not_suffix_of_isEnd {c : Char} {w x b : Text} (hc : isEnd c = true)
    (hw : ∀ d ∈ w, isSpace d = true) (hb : Text.Blank b) : ¬c :: w <:+ x ++ ',' :: b := by
  rw [isEnd, Bool.and_eq_true, bne_iff_ne, Bool.not_eq_true'] at hc
  intro hsuffix
  obtain h | h := List.suffix_or_suffix_of_suffix hsuffix (List.suffix_append x (',' :: b))
  · obtain heq | h := List.suffix_cons_iff.mp h
    · exact hc.1 (List.cons.inj heq).1
    · have hblank := hb c (h.subset (List.mem_cons_self ..))
      rw [hc.2] at hblank
      cases hblank
  · obtain heq | h := List.suffix_cons_iff.mp h
    · exact hc.1 (List.cons.inj heq).1.symm
    · exact absurd (hw ',' (h.subset (List.mem_cons_self ..))) (by decide)

theorem read_comma_ne_ok {x b : Text} (hb : Text.Blank b) (v : Value) :
    read ('[' :: (x ++ ',' :: (b ++ [']']))) ≠ .ok v := by
  intro h
  obtain ⟨after, hvalue, hend⟩ := exists_readValue_of_read h
  have hafter := spaces_of_skipSpace hend
  have harray : readArray (readValue (maxDepth - 1)) (x ++ ',' :: (b ++ [']'])) = .ok (v, after) :=
    hvalue
  -- What follows the bracket that closes the list are spaces, so that it is the last bracket.
  have hnil {t : Text} (ht : t ++ ']' :: after = x ++ ',' :: (b ++ [']'])) :
      after = [] ∧ t = x ++ ',' :: b := by
    have happ : x ++ ',' :: (b ++ [']']) = (x ++ ',' :: b) ++ [']'] := by simp
    rw [happ] at ht
    obtain rfl | ⟨u, d, rfl⟩ := List.eq_nil_or_concat after
    · exact ⟨rfl, List.append_cancel_right ht⟩
    · rw [List.concat_eq_append, ← List.cons_append, ← List.append_assoc] at ht
      have hd : d = ']' := (List.cons.inj (List.append_inj_right' ht rfl)).1
      exact absurd (hafter ']' (by simp [hd])) (by decide)
  obtain ⟨heq, -⟩ | ⟨fuel, vs, hitems, -⟩ := readArray_cases harray
  · obtain ⟨w, hw, ht⟩ := exists_spaces (x ++ ',' :: (b ++ [']']))
    rw [heq] at ht
    obtain ⟨-, hwx⟩ := hnil ht.symm
    exact absurd (hw ',' (by simp [hwx])) (by decide)
  · obtain ⟨c, w, hc, hw, hsuffix⟩ := last_of_readItems (advances_readValue (maxDepth - 1)) hitems
    obtain ⟨u, hu⟩ := hsuffix.trans (steps_skipSpace _).suffix
    have happ : (u ++ c :: w) ++ ']' :: after = x ++ ',' :: (b ++ [']']) := by
      rw [← hu]
      simp
    obtain ⟨-, hux⟩ := hnil happ
    exact not_suffix_of_isEnd hc hw hb ⟨u, hux⟩

end LitNote.Json
