import LitNote.Json.Reader
import LitNote.Json.Writer
import LitNote.Proofs.Number.Decimal
import LitNote.Proofs.Text.Casing

/-!
Numbers and strings of JSON, written and read again with more text after them.
-/

namespace LitNote.Json

def EndsNumber (rest : Text) : Prop :=
  ∀ c, rest.head? = some c → Text.isAsciiDigit c = false ∧ c ≠ '.' ∧ c ≠ 'e' ∧ c ≠ 'E'

theorem endsNumber_nil : EndsNumber [] := fun _ h => nomatch h

theorem spanDigits_append {digits rest : Text}
    (hd : ∀ c ∈ digits, Text.isAsciiDigit c = true) (hr : EndsNumber rest) :
    spanDigits (digits ++ rest) = (digits, rest) := by
  have htake : rest.takeWhile Text.isAsciiDigit = [] := by
    cases rest with
    | nil => rfl
    | cons c rest => exact List.takeWhile_cons_of_neg (by simp [(hr c rfl).1])
  have hdrop : rest.dropWhile Text.isAsciiDigit = rest := by
    cases rest with
    | nil => rfl
    | cons c rest => exact List.dropWhile_cons_of_neg (by simp [(hr c rfl).1])
  rw [spanDigits, List.takeWhile_append_of_pos hd, List.dropWhile_append_of_pos hd, htake, hdrop,
    List.append_nil]

theorem readPlaces_eq_none {rest : Text} (hr : EndsNumber rest) : readPlaces rest = none := by
  rw [readPlaces]
  rintro c u rfl
  exact (hr '.' rfl).2.1 rfl

theorem readExponent_eq_none {rest : Text} (hr : EndsNumber rest) : readExponent rest = none := by
  cases rest with
  | nil => rfl
  | cons c rest =>
    obtain ⟨-, -, he, hE⟩ := hr c rfl
    simp [readExponent, he, hE]

theorem finishNumber_eq_ok {start whole rest : Text} (negative : Bool) (hr : EndsNumber rest)
    (hlen : whole.length ≤ Integer.maxDigits) :
    finishNumber start negative whole rest =
      .ok (.int (if negative then -(digitsValue whole : Int) else digitsValue whole), rest) := by
  simp [finishNumber, readPlaces_eq_none hr, readExponent_eq_none hr, Nat.not_lt.mpr hlen]

/-- A whole part is all digits, and it starts with a zero only if it is nothing else. -/
structure IsWhole (digits : Text) : Prop where
  ne_nil : digits ≠ []
  all : ∀ c ∈ digits, Text.isAsciiDigit c = true
  noZero : digits.head? = some '0' → digits = ['0']

theorem isWhole_natText (n : Nat) : IsWhole (natText n) where
  ne_nil := natText_ne_nil n
  all _ hc := isAsciiDigit_of_mem_natText hc
  noZero h := by
    by_cases hn : n = 0
    · rw [hn, natText, Nat.toDigits_zero]
    · exact absurd h (head?_natText hn)

theorem readUnsigned_append {digits rest : Text} (start : Text) (negative : Bool)
    (hd : IsWhole digits) (hr : EndsNumber rest) :
    readUnsigned start negative (digits ++ rest) = finishNumber start negative digits rest := by
  obtain ⟨c, cs, rfl⟩ := List.exists_cons_of_ne_nil hd.ne_nil
  by_cases hc : c = '0'
  · subst hc
    cases hd.noZero rfl
    rfl
  · have hdigit := hd.all c (List.mem_cons_self ..)
    have hspan := spanDigits_append hd.all hr
    rw [List.cons_append] at hspan ⊢
    rw [readUnsigned, if_pos hdigit, hspan]
    exact hc

theorem readNumber_minus (rest : Text) :
    readNumber ('-' :: rest) = readUnsigned ('-' :: rest) true rest := rfl

theorem readNumber_of_ne {s : Text} (h : s.head? ≠ some '-') :
    readNumber s = readUnsigned s false s := by
  rw [readNumber]
  rintro rest rfl
  exact h rfl

theorem IsWhole.head?_ne_minus {digits : Text} (hd : IsWhole digits) (rest : Text) :
    (digits ++ rest).head? ≠ some '-' := by
  obtain ⟨c, cs, rfl⟩ := List.exists_cons_of_ne_nil hd.ne_nil
  intro h
  cases h
  exact absurd (hd.all '-' (List.mem_cons_self ..)) (by decide)

theorem readNumber_text {n : Int} (hn : Integer.tooLong n = false) {rest : Text}
    (hr : EndsNumber rest) : readNumber (Integer.text n ++ rest) = .ok (.int n, rest) := by
  have hlen := natText_length_le hn
  have hvalue : digitsValue (natText n.natAbs) = n.natAbs := ofDigits_natText n.natAbs
  have hwhole := isWhole_natText n.natAbs
  by_cases hneg : n < 0
  · have habs : -(n.natAbs : Int) = n := by omega
    rw [Integer.text, if_pos hneg, List.cons_append, readNumber_minus,
      readUnsigned_append _ _ hwhole hr, finishNumber_eq_ok true hr hlen, hvalue, if_pos rfl, habs]
  · have habs : (n.natAbs : Int) = n := by omega
    rw [Integer.text, if_neg hneg, readNumber_of_ne (hwhole.head?_ne_minus rest),
      readUnsigned_append _ _ hwhole hr, finishNumber_eq_ok false hr hlen, hvalue,
      if_neg Bool.false_ne_true, habs]

theorem hexCode?_hexDigits : ∀ n < 32, ∃ a b c d, Text.hexDigits 4 n = [a, b, c, d] ∧
    hexCode? a b c d = some n := by
  have h : ∀ n < 32, hexCode? (Text.hexDigit (n / 16 / 16 / 16 % 16))
      (Text.hexDigit (n / 16 / 16 % 16)) (Text.hexDigit (n / 16 % 16)) (Text.hexDigit (n % 16)) =
        some n := by
    decide
  exact fun n hn => ⟨_, _, _, _, rfl, h n hn⟩

theorem charOf_toNat {c : Char} (h : c.toNat < 32) : charOf c.toNat = c := by
  rw [charOf, if_neg (by omega), Char.ofNat_toNat]

theorem readCode_writeControl {c : Char} (h : c.toNat < 32) {t : Text} (ht : t ≠ []) :
    readCode ('\\' :: 'u' :: (Text.hexDigits 4 c.toNat ++ t)) = .ok (c, 6) := by
  obtain ⟨x, y, z, w, hdigits, hcode⟩ := hexCode?_hexDigits c.toNat h
  rw [hdigits]
  simp only [List.cons_append, List.nil_append, readCode]
  rw [if_neg (by simpa using ht), hcode]
  simp only []
  rw [if_neg (by omega), charOf_toNat h]

theorem readChars_skip (opened : Nat) (passed rest : Text) :
    readChars opened passed.length (passed ++ rest) = readChars opened 0 rest := by
  induction passed with
  | nil => rfl
  | cons c passed ih => exact ih

theorem readChars_plain {opened : Nat} {c : Char} {t : Text} (hquote : c ≠ '"')
    (hslash : c ≠ '\\') (hcontrol : ¬c.toNat < 32) :
    readChars opened 0 (c :: t) = (readChars opened 0 t).map fun (s, after) => (c :: s, after) := by
  rw [readChars, if_neg hcontrol]
  · cases readChars opened 0 t <;> rfl
  · exact hquote
  · exact hslash

theorem readChars_escaped {opened : Nat} {e c : Char} {t : Text} (he : escaped? e = some c) :
    readChars opened 0 ('\\' :: e :: t) =
      (readChars opened 0 t).map fun (s, after) => (c :: s, after) := by
  have hu : e ≠ 'u' := by
    rintro rfl
    cases he
  rw [readChars]
  · rw [he]
    simp only [readChars]
    cases readChars opened 0 t <;> rfl
  · exact hu

theorem readChars_code {opened : Nat} {c : Char} {t : Text} (hc : c.toNat < 32) (ht : t ≠ []) :
    readChars opened 0 ('\\' :: 'u' :: (Text.hexDigits 4 c.toNat ++ t)) =
      (readChars opened 0 t).map fun (s, after) => (c :: s, after) := by
  have hskip : readChars opened 5 ('u' :: (Text.hexDigits 4 c.toNat ++ t)) =
      readChars opened 0 t := readChars_skip opened ('u' :: Text.hexDigits 4 c.toNat) t
  rw [readChars, readCode_writeControl hc ht]
  simp only [bind, Except.bind]
  rw [hskip]
  cases readChars opened 0 t <;> rfl

theorem writeChar_cases (c : Char) :
    (∃ e, escaped? e = some c ∧ writeChar c = ['\\', e]) ∨
      (c.toNat < 32 ∧ writeChar c = '\\' :: 'u' :: Text.hexDigits 4 c.toNat) ∨
      (c ≠ '"' ∧ c ≠ '\\' ∧ ¬c.toNat < 32 ∧ writeChar c = [c]) := by
  rw [writeChar]
  split
  · next h =>
    rw [Bool.or_eq_true, beq_iff_eq, beq_iff_eq] at h
    obtain rfl | rfl := h
    · exact .inl ⟨'"', rfl, rfl⟩
    · exact .inl ⟨'\\', rfl, rfl⟩
  next hmark =>
  rw [Bool.or_eq_true, beq_iff_eq, beq_iff_eq, not_or] at hmark
  split
  · next h =>
    cases beq_iff_eq.mp h
    exact .inl ⟨'n', rfl, rfl⟩
  split
  · next h =>
    cases beq_iff_eq.mp h
    exact .inl ⟨'r', rfl, rfl⟩
  split
  · next h =>
    cases beq_iff_eq.mp h
    exact .inl ⟨'t', rfl, rfl⟩
  split
  · next h =>
    refine .inl ⟨'b', ?_, rfl⟩
    rw [← Char.ofNat_toNat c, h]
    rfl
  split
  · next h =>
    refine .inl ⟨'f', ?_, rfl⟩
    rw [← Char.ofNat_toNat c, h]
    rfl
  split
  · next h => exact .inr (.inl ⟨h, rfl⟩)
  · next h => exact .inr (.inr ⟨hmark.1, hmark.2, h, rfl⟩)

theorem readChars_writeChar (opened : Nat) (c : Char) {t : Text} (ht : t ≠ []) :
    readChars opened 0 (writeChar c ++ t) =
      (readChars opened 0 t).map fun (s, after) => (c :: s, after) := by
  obtain ⟨e, he, hw⟩ | ⟨hc, hw⟩ | ⟨hquote, hslash, hcontrol, hw⟩ := writeChar_cases c
  · rw [hw]
    exact readChars_escaped he
  · rw [hw]
    exact readChars_code hc ht
  · rw [hw]
    exact readChars_plain hquote hslash hcontrol

theorem readString_writeText (s rest : Text) :
    readString (s.flatMap writeChar ++ '"' :: rest) = .ok (s, rest) := by
  rw [readString]
  generalize (s.flatMap writeChar ++ '"' :: rest).length + 1 = opened
  induction s with
  | nil => rfl
  | cons c s ih =>
    rw [List.flatMap_cons, List.append_assoc, readChars_writeChar opened c, ih]
    · rfl
    · exact List.append_ne_nil_of_right_ne_nil _ (List.cons_ne_nil _ _)

def IsPlain (c : Char) : Prop := c ≠ '"' ∧ c ≠ '\\' ∧ 32 ≤ c.toNat

instance : DecidablePred IsPlain :=
  fun c => inferInstanceAs (Decidable (c ≠ '"' ∧ c ≠ '\\' ∧ 32 ≤ c.toNat))

def IsPlainText (s : Text) : Prop := ∀ c ∈ s, IsPlain c

instance (s : Text) : Decidable (IsPlainText s) := List.decidableBAll IsPlain s

theorem IsPlainText.noQuote {s : Text} (h : IsPlainText s) : '"' ∉ s :=
  fun hmem => (h _ hmem).1 rfl

theorem isPlain_of_isBeyondMarks {c : Char} (h : Text.IsBeyondMarks c) :
    IsPlain c ∧ c ≠ ',' := by
  obtain ⟨hle, hne⟩ := h
  refine ⟨⟨?_, ?_, by omega⟩, ?_⟩
  · rintro rfl
    exact absurd hle (by decide)
  · rintro rfl
    exact hne rfl
  · rintro rfl
    exact absurd hle (by decide)

theorem toNat_lt_of_not_isPlain {c : Char} (h : ¬IsPlain c) : c.toNat < 128 := by
  by_contra hle
  refine h ⟨?_, ?_, by omega⟩
  · rintro rfl
    exact hle (by decide)
  · rintro rfl
    exact hle (by decide)

theorem upperOf_of_not_isPlain {c : Char} (h : ¬IsPlain c) : Text.upperOf c = [c] := by
  have hascii : ∀ n < 128, IsPlain (Char.ofNat n) ∨
      (Char.ofNat n).toUpper = Char.ofNat n := by decide
  have hlt := toNat_lt_of_not_isPlain h
  have hupper := hascii c.toNat hlt
  rw [Char.ofNat_toNat] at hupper
  rw [Text.upperOf, if_pos hlt, hupper.resolve_left h]

theorem writeChar_of_isPlain {c : Char} (h : IsPlain c) : writeChar c = [c] := by
  obtain ⟨hquote, hslash, hcontrol⟩ := h
  have hne {n : Nat} (hn : n < 32) : c.toNat ≠ n := by omega
  have hchar {d : Char} (hd : d.toNat < 32) : (c == d) = false :=
    beq_false_of_ne fun heq => hne hd (heq ▸ rfl)
  have hline : (c == '\n') = false := hchar (by decide)
  have hreturn : (c == '\r') = false := hchar (by decide)
  have htab : (c == '\t') = false := hchar (by decide)
  simp [writeChar, hquote, hslash, hline, hreturn, htab, hne, Nat.not_lt.mpr hcontrol]

theorem writeText_of_isPlain {s : Text} (h : IsPlainText s) :
    writeText s = '"' :: s ++ ['"'] := by
  have hchars : s.flatMap writeChar = s := by
    induction s with
    | nil => rfl
    | cons c s ih =>
      rw [List.flatMap_cons, writeChar_of_isPlain (h c (List.mem_cons_self ..)),
        ih fun d hd => h d (List.mem_cons_of_mem c hd)]
      rfl
  rw [writeText, hchars]

end LitNote.Json
