import LitNote.Proofs.Failure
import LitNote.Proofs.Json.RoundTrip
import LitNote.Proofs.Text.Padding

/-!
JSON by its first character: brackets give lists and braces records, quotation marks alone give
texts, and blanks give nothing.
-/

namespace LitNote.Json

variable {value : Text → Result (Value × Text)} {s rest : Text} {v : Value}

theorem exists_list_of_readArray (h : readArray value s = .ok (v, rest)) :
    ∃ items, v = .list items := by
  obtain ⟨-, hv⟩ | ⟨_, vs, -, hv⟩ := readArray_cases h
  · exact ⟨[], hv⟩
  · exact ⟨vs, hv⟩

theorem exists_record_of_readObject (h : readObject value s = .ok (v, rest)) :
    ∃ es, v = .record es := by
  rw [readObject] at h
  split at h
  · cases h
    exact ⟨[], rfl⟩
  · obtain ⟨r, -, h⟩ := Failure.bind_eq_ok_iff.mp h
    cases h
    exact ⟨_, rfl⟩

theorem exists_number_of_readNumber (h : readNumber s = .ok (v, rest)) :
    (∃ i, v = .int i) ∨ ∃ x, v = .float x := by
  have hfinish {start whole after : Text} {negative : Bool}
      (h : finishNumber start negative whole after = .ok (v, rest)) :
      (∃ i, v = .int i) ∨ ∃ x, v = .float x := by
    rw [finishNumber] at h
    dsimp only at h
    split at h
    · split at h
      · cases h
      · cases h
        exact .inl ⟨_, rfl⟩
    · cases h
      exact .inr ⟨_, rfl⟩
  have hunsigned {start t : Text} {negative : Bool}
      (h : readUnsigned start negative t = .ok (v, rest)) :
      (∃ i, v = .int i) ∨ ∃ x, v = .float x := by
    rw [readUnsigned.eq_def] at h
    split at h
    · cases h
    · exact hfinish h
    · split at h
      · exact hfinish h
      · cases h
  rw [readNumber.eq_def] at h
  split at h
  · exact hunsigned h
  · exact hunsigned h

theorem readScalar_ne_text (t : Text) : readScalar s ≠ .ok (.text t, rest) := by
  intro h
  rw [readScalar] at h
  split at h
  · next word v hfind =>
    have hwords : ∀ e ∈ words, e.2 ≠ .text t := by
      intro e he
      simp only [words, List.mem_cons, List.not_mem_nil, or_false] at he
      obtain rfl | rfl | rfl | rfl | rfl | rfl := he <;> exact Value.noConfusion
    cases h
    exact hwords _ (List.mem_of_find?_eq_some hfind) rfl
  · obtain ⟨i, hi⟩ | ⟨x, hx⟩ := exists_number_of_readNumber h
    · cases hi
    · cases hx

theorem head?_of_readValue {n : Nat} {t : Text} (h : readValue n s = .ok (.text t, rest)) :
    s.head? = some '"' := by
  cases s with
  | nil => cases n <;> cases h
  | cons c s =>
    by_cases hquote : c = '"'
    · rw [hquote]
      rfl
    by_cases hlist : c = '['
    · subst hlist
      cases n with
      | zero => cases h
      | succ n =>
        have harray : readArray (readValue n) s = .ok (.text t, rest) := h
        obtain ⟨items, hitems⟩ := exists_list_of_readArray harray
        cases hitems
    by_cases hrecord : c = '{'
    · subst hrecord
      cases n with
      | zero => cases h
      | succ n =>
        have hobject : readObject (readValue n) s = .ok (.text t, rest) := h
        obtain ⟨es, hes⟩ := exists_record_of_readObject hobject
        cases hes
    · rw [readValue_eq_readScalar n hquote hlist hrecord] at h
      exact absurd h (readScalar_ne_text t)

theorem exists_readValue_of_read (h : read s = .ok v) :
    ∃ rest, readValue maxDepth (skipSpace s) = .ok (v, rest) ∧ skipSpace rest = [] := by
  rw [read] at h
  split at h
  · cases h
  · obtain ⟨⟨w, rest⟩, hr, h⟩ := Failure.bind_eq_ok_iff.mp h
    dsimp only at h
    split at h
    · next hend =>
      cases h
      exact ⟨rest, hr, hend⟩
    · cases h

theorem exists_list_of_read (h : read ('[' :: s) = .ok v) : ∃ items, v = .list items := by
  obtain ⟨rest, hrest, -⟩ := exists_readValue_of_read h
  have harray : readArray (readValue (maxDepth - 1)) s = .ok (v, rest) := hrest
  exact exists_list_of_readArray harray

theorem exists_record_of_read (h : read ('{' :: s) = .ok v) : ∃ es, v = .record es := by
  obtain ⟨rest, hrest, -⟩ := exists_readValue_of_read h
  have hobject : readObject (readValue (maxDepth - 1)) s = .ok (v, rest) := hrest
  exact exists_record_of_readObject hobject

theorem read_of_filter {s : Text} (h : s.filter (· != ' ') = ['[', ']']) :
    read s = .ok (.list []) := by
  obtain ⟨a, t, rfl, ha, -, ht⟩ := List.filter_eq_cons_iff.mp h
  obtain ⟨b, u, rfl, hb, -, hu⟩ := List.filter_eq_cons_iff.mp ht
  have hspaces {w : Text} (hw : ∀ c ∈ w, ¬(c != ' ') = true) : ∀ c ∈ w, isSpace c = true := by
    intro c hc
    have hc : c = ' ' := by simpa using hw c hc
    rw [hc]
    rfl
  have ha := hspaces ha
  have hb := hspaces hb
  have hu := hspaces (List.filter_eq_nil_iff.mp hu)
  have hstart : skipSpace (a ++ '[' :: (b ++ ']' :: u)) = '[' :: (b ++ ']' :: u) := by
    rw [skipSpace, List.dropWhile_append_of_pos ha]
    rfl
  have hclose : skipSpace (b ++ ']' :: u) = ']' :: u := by
    rw [skipSpace, List.dropWhile_append_of_pos hb]
    rfl
  have hend : skipSpace u = [] := by
    have hdrop : (u ++ []).dropWhile isSpace = [] := List.dropWhile_append_of_pos hu
    rwa [List.append_nil] at hdrop
  have hvalue : readValue maxDepth (skipSpace (a ++ '[' :: (b ++ ']' :: u))) =
      .ok (.list [], u) := by
    rw [hstart]
    show readArray (readValue (maxDepth - 1)) (b ++ ']' :: u) = _
    rw [readArray, hclose]
    rfl
  refine read_of_readValue (fun heq => ?_) hvalue hend
  cases a with
  | nil => cases heq
  | cons c a =>
    cases heq
    exact absurd (ha _ (List.mem_cons_self ..)) (by decide)

theorem readValue_of_isBlank (n : Nat) {c : Char} (hc : Text.isBlank c = true) (t : Text) :
    readValue n (c :: t) = fail .noValue (c :: t) := by
  have hne {d : Char} (hd : Text.isBlank d = false) : c ≠ d := by
    rintro rfl
    rw [hc] at hd
    cases hd
  have hdigit : Text.isAsciiDigit c = false := by
    cases h : Text.isAsciiDigit c with
    | false => rfl
    | true => rw [Text.isBlank_of_isAsciiDigit h] at hc; cases hc
  have hscalar : readScalar (c :: t) = readNumber (c :: t) := by
    refine readScalar_of_no_word fun hmem hprefix => ?_
    obtain ⟨d, e, u, rfl, hd, -⟩ := words_start hmem
    cases hprefix with
    | intro w hw =>
      cases hw
      rw [hc] at hd
      cases hd
  have hminus : (c :: t).head? ≠ some '-' := fun h => hne (d := '-') rfl (Option.some.inj h)
  rw [readValue_eq_readScalar n (hne rfl) (hne rfl) (hne rfl), hscalar,
    readNumber_of_ne hminus, readUnsigned, hdigit, if_neg Bool.false_ne_true]
  exact hne rfl

theorem read_of_blank {content : Text} (h : Text.Blank content) :
    read ('[' :: (content ++ [']'])) = .ok (.list []) ∨
      ∃ f, read ('[' :: (content ++ [']'])) = .error f ∧ f.cause = .noValue := by
  have hmark : ('[' :: (content ++ [']'])).head? ≠ some (Char.ofNat 0xFEFF) := by
    intro heq
    cases heq
  have hvalue : readValue maxDepth (skipSpace ('[' :: (content ++ [']']))) =
      readArray (readValue (maxDepth - 1)) (content ++ [']']) := rfl
  have hskip : skipSpace (content ++ [']']) = skipSpace content ++ [']'] := by
    rw [skipSpace, List.dropWhile_append]
    split
    · next he =>
      rw [skipSpace, List.isEmpty_iff.mp he]
      rfl
    · rfl
  cases hc : skipSpace content with
  | nil =>
    have harray : readArray (readValue (maxDepth - 1)) (content ++ [']']) = .ok (.list [], []) := by
      rw [readArray, hskip, hc]
      rfl
    exact .inl (read_of_readValue hmark (hvalue.trans harray) rfl)
  | cons d u =>
    have hd : Text.isBlank d = true := by
      have hmem : d ∈ skipSpace content := hc ▸ List.mem_cons_self ..
      exact h d ((List.dropWhile_sublist isSpace).mem hmem)
    have hitems : readItems (readValue (maxDepth - 1)) ((d :: (u ++ [']'])).length + 1)
        (d :: (u ++ [']'])) = fail .noValue (d :: (u ++ [']'])) := by
      rw [readItems, readValue_of_isBlank (maxDepth - 1) hd]
      rfl
    have harray : readArray (readValue (maxDepth - 1)) (content ++ [']']) =
        fail .noValue (d :: (u ++ [']'])) := by
      rw [readArray, hskip, hc, List.cons_append]
      split
      · next heq =>
        cases heq
        cases hd
      · rw [hitems]
        rfl
    exact .inr ⟨_, read_of_readValue_error hmark (hvalue.trans harray), rfl⟩

end LitNote.Json
