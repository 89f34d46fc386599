import LitNote.Proofs.Json.Progress
import Mathlib.Algebra.Ring.Nat

/-!
The length of texts in JSON, and their quotation marks.  Main statements: no form in which a list
of texts is read is shorter than its written form, and none has more quotation marks; the written
form takes no more than the room of the texts, their quotation marks and a comma or bracket after
each only if nothing is escaped.
-/

namespace LitNote.Json

variable {s t rest : Text}

theorem length_skipSpace_le (s : Text) : (skipSpace s).length ≤ s.length :=
  (List.dropWhile_sublist isSpace).length_le

theorem le_of_readCode {c : Char} {n : Nat} (h : readCode s = .ok (c, n)) : 6 ≤ n := by
  rw [readCode.eq_def] at h
  repeat' split at h
  all_goals first | (cases h; omega) | cases h

theorem length_writeChar_le (c : Char) : (writeChar c).length ≤ 6 := by
  rcases writeChar_cases c with ⟨e, -, hw⟩ | ⟨-, hw⟩ | ⟨-, -, -, hw⟩ <;> rw [hw]
  · exact Nat.le_add_left 2 4
  · rw [List.length_cons, List.length_cons, Text.hexDigits_length]
  · exact Nat.le_add_left 1 5

theorem length_writeChar_pos (c : Char) : 0 < (writeChar c).length := by
  rcases writeChar_cases c with ⟨e, -, hw⟩ | ⟨-, hw⟩ | ⟨-, -, -, hw⟩ <;>
    exact hw ▸ Nat.succ_pos _

theorem isPlain_of_length_writeChar {c : Char} (h : (writeChar c).length ≤ 1) : IsPlain c := by
  rcases writeChar_cases c with ⟨e, -, hw⟩ | ⟨-, hw⟩ | ⟨hquote, hslash, hcontrol, -⟩
  · rw [hw] at h
    exact absurd (Nat.le_of_succ_le_succ h) (Nat.not_succ_le_zero _)
  · rw [hw] at h
    exact absurd (Nat.le_of_succ_le_succ h) (Nat.not_succ_le_zero _)
  · exact ⟨hquote, hslash, Nat.le_of_not_lt hcontrol⟩

theorem length_writeChar_of_escaped {e c : Char} (h : escaped? e = some c) :
    (writeChar c).length ≤ 2 := by
  rw [escaped?.eq_def] at h
  split at h <;> cases h <;> decide

theorem count_quote_of_escaped {e c : Char} (h : escaped? e = some c) :
    [e].count '"' = [c].count '"' := by
  rw [escaped?.eq_def] at h
  split at h <;> cases h <;> decide

theorem not_mem_of_hexCode? {x a b c d : Char} {n : Nat} (hx : hexValue? x = none)
    (h : hexCode? a b c d = some n) : x ∉ [a, b, c, d] := by
  intro hmem
  simp only [List.mem_cons, List.not_mem_nil, or_false] at hmem
  rcases hmem with rfl | rfl | rfl | rfl <;> simp [hexCode?, hx] at h

theorem not_mem_hexDigits {x c : Char} (hx : hexValue? x = none) (hc : c.toNat < 32) :
    x ∉ Text.hexDigits 4 c.toNat := by
  obtain ⟨a, b, d, e, hdigits, hcode⟩ := hexCode?_hexDigits c.toNat hc
  rw [hdigits]
  exact not_mem_of_hexCode? hx hcode

theorem comma_not_mem_writeChar {c : Char} (h : c ≠ ',') : ',' ∉ writeChar c := by
  rcases writeChar_cases c with ⟨e, he, hw⟩ | ⟨hc, hw⟩ | ⟨-, -, -, hw⟩ <;> rw [hw]
  · have hcomma : ',' ≠ e := fun heq => by
      rw [← heq] at he
      cases he
    simp [hcomma]
  · simp [not_mem_hexDigits (x := ',') rfl hc]
  · simp [h.symm]

theorem count_quote_writeChar (c : Char) : (writeChar c).count '"' = [c].count '"' := by
  rcases writeChar_cases c with ⟨e, he, hw⟩ | ⟨hc, hw⟩ | ⟨-, -, -, hw⟩ <;> rw [hw]
  · rw [← count_quote_of_escaped he]
    rfl
  · have hdigits : '"' ∉ Text.hexDigits 4 c.toNat := not_mem_hexDigits rfl hc
    have hquote : c ≠ '"' := by
      rintro rfl
      exact absurd hc (by decide)
    simp [List.count_eq_zero.mpr hdigits, hquote]

theorem readCode_cases {x : Char} {n : Nat} (h : readCode s = .ok (x, n)) :
    ∃ a b c d high u, s = '\\' :: 'u' :: a :: b :: c :: d :: u ∧ hexCode? a b c d = some high ∧
      (n = 6 ∨ n = 12 ∧ ∃ a b c d low v, u = '\\' :: 'u' :: a :: b :: c :: d :: v ∧
        hexCode? a b c d = some low) := by
  rw [readCode.eq_def] at h
  split at h
  · next a b c d u =>
    split at h
    · cases h
    split at h
    · cases h
    · next high hhigh =>
      refine ⟨a, b, c, d, high, u, rfl, hhigh, ?_⟩
      split at h
      · split at h
        · split at h
          · cases h
          · next low hlow =>
            split at h
            · cases h
              exact .inr ⟨rfl, _, _, _, _, low, _, rfl, hlow⟩
            · cases h
              exact .inl rfl
        · cases h
          exact .inl rfl
      · cases h
        exact .inl rfl
  · cases h

theorem quote_not_mem_of_readCode {x : Char} {n : Nat} (h : readCode ('\\' :: s) = .ok (x, n)) :
    '"' ∉ s.take (n - 1) := by
  obtain ⟨a, b, c, d, high, u, heq, hhigh, hn⟩ := readCode_cases h
  have hquote : hexValue? '"' = none := rfl
  have hfirst := not_mem_of_hexCode? hquote hhigh
  cases heq
  rcases hn with rfl | ⟨rfl, e, f, g, k, low, v, rfl, hlow⟩
  · simpa using hfirst
  · have hsecond := not_mem_of_hexCode? hquote hlow
    simp only [List.mem_cons, List.not_mem_nil, or_false, not_or] at hfirst hsecond
    simp [hfirst, hsecond]

theorem count_quote_cons (c : Char) (s : Text) :
    (c :: s).count '"' = [c].count '"' + s.count '"' := by
  rw [← List.singleton_append, List.count_append]

theorem bounds_of_readChars {opened skip : Nat} (h : readChars opened skip s = .ok (t, rest)) :
    (t.flatMap writeChar).length + skip + 1 + rest.length ≤ s.length ∧
      (s.drop skip).count '"' ≤ t.count '"' + 1 + rest.count '"' := by
  -- The cases follow the reader, as for `exists_of_readChars`.
  fun_induction readChars opened skip s generalizing t with
  | case1 => cases h
  | case2 skip c s ih =>
    obtain ⟨hlength, hquotes⟩ := ih h
    rw [List.length_cons, List.drop_succ_cons]
    exact ⟨by omega, hquotes⟩
  | case3 s =>
    cases h
    simp only [List.flatMap_nil, List.length_nil, List.length_cons, List.drop_zero,
      List.count_nil, List.count_cons_self]
    omega
  | case4 => cases h
  | case5 s ih =>
    obtain ⟨⟨c, length⟩, hcode, h⟩ := Failure.bind_eq_ok_iff.mp h
    obtain ⟨⟨u, after⟩, hread, h⟩ := Failure.bind_eq_ok_iff.mp h
    cases h
    have hsix := le_of_readCode hcode
    have hwrite := length_writeChar_le c
    have hdigits := List.count_eq_zero.mpr (quote_not_mem_of_readCode hcode)
    obtain ⟨hlength, hquotes⟩ := ih length hread
    have happ := congrArg (List.count '"') (List.take_append_drop (length - 1) ('u' :: s))
    rw [List.count_append] at happ
    have hslash := count_quote_cons '\\' ('u' :: s)
    have hzero : ['\\'].count '"' = 0 := rfl
    have ht := count_quote_cons c u
    simp only [List.flatMap_cons, List.length_append, List.length_cons, List.drop_zero] at hlength ⊢
    exact ⟨by omega, by omega⟩
  | case6 e s => cases h
  | case7 e s _ c hescaped ih =>
    obtain ⟨⟨u, after⟩, hread, h⟩ := Failure.bind_eq_ok_iff.mp h
    cases h
    have hwrite := length_writeChar_of_escaped hescaped
    have hquote := count_quote_of_escaped hescaped
    obtain ⟨hlength, hquotes⟩ := ih hread
    have hslash := count_quote_cons '\\' (e :: s)
    have hzero : ['\\'].count '"' = 0 := rfl
    have he := count_quote_cons e s
    have ht := count_quote_cons c u
    simp only [List.flatMap_cons, List.length_append, List.length_cons, List.drop_zero,
      List.drop_succ_cons] at hlength hquotes ⊢
    exact ⟨by omega, by omega⟩
  | case8 c s => cases h
  | case9 c s hquote hescape hcontrol ih =>
    obtain ⟨⟨u, after⟩, hread, h⟩ := Failure.bind_eq_ok_iff.mp h
    cases h
    have hplain : writeChar c = [c] := writeChar_of_isPlain ⟨hquote, hescape, by omega⟩
    obtain ⟨hlength, hquotes⟩ := ih hread
    have hs := count_quote_cons c s
    have ht := count_quote_cons c u
    simp only [List.flatMap_cons, hplain, List.length_append, List.length_cons, List.length_nil,
      List.drop_zero] at hlength hquotes ⊢
    exact ⟨by omega, by omega⟩

theorem count_quote_writeChars (t : Text) : (t.flatMap writeChar).count '"' = t.count '"' := by
  induction t with
  | nil => rfl
  | cons c t ih =>
    rw [List.flatMap_cons, List.count_append, count_quote_writeChar, ih, count_quote_cons c t]

theorem bounds_of_readText {n : Nat} (h : readValue n s = .ok (.text t, rest)) :
    (writeText t).length + rest.length ≤ s.length ∧
      s.count '"' ≤ t.count '"' + 2 + rest.count '"' := by
  obtain ⟨u, rfl⟩ := List.head?_eq_some_iff.mp (head?_of_readValue h)
  have htext : readValue n ('"' :: u) = readString u >>= fun p => pure (.text p.1, p.2) := by
    cases n <;> rfl
  rw [htext] at h
  obtain ⟨⟨w, after⟩, hread, h⟩ := Failure.bind_eq_ok_iff.mp h
  cases h
  obtain ⟨hlength, hquotes⟩ := bounds_of_readChars hread
  rw [List.drop_zero] at hquotes
  simp only [writeText, List.length_cons, List.length_append, List.length_nil,
    List.count_cons_self]
  exact ⟨by omega, by omega⟩

def writtenLength (ts : List Text) : Nat := (ts.map fun t => (writeText t).length + 1).sum

def writtenQuotes (ts : List Text) : Nat := (ts.map fun t => t.count '"' + 2).sum

theorem writtenLength_cons (t : Text) (ts : List Text) :
    writtenLength (t :: ts) = (writeText t).length + 1 + writtenLength ts := rfl

theorem writtenQuotes_cons (t : Text) (ts : List Text) :
    writtenQuotes (t :: ts) = t.count '"' + 2 + writtenQuotes ts := rfl

theorem count_quote_skipSpace (s : Text) : (skipSpace s).count '"' = s.count '"' := by
  obtain ⟨a, ha, heq⟩ := exists_spaces s
  have hquote : '"' ∉ a := fun hmem => absurd (ha '"' hmem) (by decide)
  have hcount := congrArg (List.count '"') heq
  rw [List.count_append, List.count_eq_zero.mpr hquote] at hcount
  omega

theorem bounds_of_readItems {n fuel : Nat} {ts : List Text}
    (h : readItems (readValue n) fuel s = .ok (ts.map .text, rest)) :
    writtenLength ts + rest.length ≤ s.length ∧
      s.count '"' ≤ writtenQuotes ts + rest.count '"' := by
  induction fuel generalizing s ts with
  | zero => cases h
  | succ fuel ih =>
    obtain ⟨_, v, after, hfuel, hv, hcases⟩ := readItems_cases h
    cases hfuel
    cases ts with
    | nil => obtain ⟨-, heq⟩ | ⟨_, _, -, -, heq⟩ := hcases <;> cases heq
    | cons t ts =>
      have hspace := length_skipSpace_le after
      have hquotes := count_quote_skipSpace after
      rw [writtenLength_cons, writtenQuotes_cons]
      -- The list ends after the text, or it goes on after a comma.
      rcases hcases with ⟨heq, hvs⟩ | ⟨u, ws, heq, hws, hvs⟩
      · rw [List.map_cons, List.cons.injEq, List.map_eq_nil_iff] at hvs
        obtain ⟨rfl, rfl⟩ := hvs
        obtain ⟨hlength, hcount⟩ := bounds_of_readText hv
        have hlengthNil : writtenLength [] = 0 := rfl
        have hquotesNil : writtenQuotes [] = 0 := rfl
        have hbracket : (']' :: rest).count '"' = rest.count '"' :=
          List.count_cons_of_ne (by decide)
        rw [heq] at hspace hquotes
        rw [List.length_cons] at hspace
        exact ⟨by omega, by omega⟩
      · rw [List.map_cons, List.cons.injEq] at hvs
        obtain ⟨rfl, rfl⟩ := hvs
        obtain ⟨hlength, hcount⟩ := bounds_of_readText hv
        obtain ⟨hmore, hcounts⟩ := ih hws
        have hnext := length_skipSpace_le u
        have hcomma : (',' :: u).count '"' = u.count '"' := List.count_cons_of_ne (by decide)
        rw [heq] at hspace hquotes
        rw [List.length_cons] at hspace
        rw [count_quote_skipSpace] at hcounts
        exact ⟨by omega, by omega⟩

theorem bounds_of_read {ts : List Text} (h : read ('[' :: s) = .ok (.list (ts.map .text))) :
    writtenLength ts ≤ s.length ∧ s.count '"' ≤ writtenQuotes ts := by
  obtain ⟨after, hvalue, hend⟩ := exists_readValue_of_read h
  have harray : readArray (readValue (maxDepth - 1)) s = .ok (.list (ts.map .text), after) := hvalue
  have hafter : after.count '"' = 0 := by
    rw [← count_quote_skipSpace, hend]
    rfl
  have hlength := length_skipSpace_le s
  have hquotes := count_quote_skipSpace s
  rcases readArray_cases harray with ⟨heq, hnil⟩ | ⟨fuel, vs, hitems, hvs⟩
  · have hbracket : (']' :: after).count '"' = after.count '"' :=
      List.count_cons_of_ne (by decide)
    rw [List.map_eq_nil_iff.mp (Value.list.inj hnil)]
    rw [heq] at hquotes
    have hlengthNil : writtenLength [] = 0 := rfl
    exact ⟨by omega, by omega⟩
  · cases hvs
    obtain ⟨hmore, hcounts⟩ := bounds_of_readItems hitems
    exact ⟨by omega, by omega⟩

theorem length_writeChars (t : Text) : t.length ≤ (t.flatMap writeChar).length ∧
    ((t.flatMap writeChar).length ≤ t.length → IsPlainText t) := by
  induction t with
  | nil => exact ⟨Nat.le_refl 0, fun _ c hc => absurd hc List.not_mem_nil⟩
  | cons c t ih =>
    obtain ⟨hle, hplain⟩ := ih
    have hpos := length_writeChar_pos c
    rw [List.flatMap_cons, List.length_append, List.length_cons]
    refine ⟨by omega, fun h => List.forall_mem_cons.mpr ⟨?_, hplain (by omega)⟩⟩
    exact isPlain_of_length_writeChar (by omega)

def room (ts : List Text) : Nat := (ts.map fun t => t.length + 3).sum

theorem room_cons (t : Text) (ts : List Text) : room (t :: ts) = t.length + 3 + room ts := rfl

theorem room_le_writtenLength (ts : List Text) : room ts ≤ writtenLength ts ∧
    (writtenLength ts ≤ room ts → ∀ t ∈ ts, IsPlainText t) := by
  induction ts with
  | nil => exact ⟨Nat.le_refl 0, fun _ t ht => absurd ht List.not_mem_nil⟩
  | cons t ts ih =>
    obtain ⟨hle, hplains⟩ := ih
    obtain ⟨hchars, hplain⟩ := length_writeChars t
    have hwritten : (writeText t).length = (t.flatMap writeChar).length + 2 := by simp [writeText]
    rw [room_cons, writtenLength_cons, hwritten]
    exact ⟨by omega, fun h => List.forall_mem_cons.mpr ⟨hplain (by omega), hplains (by omega)⟩⟩

theorem isPlainText_of_read {ts : List Text} (h : read ('[' :: s) = .ok (.list (ts.map .text)))
    (hlength : s.length ≤ room ts) : ∀ t ∈ ts, IsPlainText t := by
  obtain ⟨hwritten, -⟩ := bounds_of_read h
  exact (room_le_writtenLength ts).2 (hwritten.trans hlength)

end LitNote.Json
