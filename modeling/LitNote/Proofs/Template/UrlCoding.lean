import LitNote.Proofs.Template.Rendering

/-!
Percent coding through the formatters.  Main statement: what is coded consists of plain characters
and percent codes, and reading it back gives the text again.
-/

namespace LitNote.Text.Percent

def isUpperHex (c : Char) : Bool := isAsciiDigit c || (65 ≤ c.toNat && c.toNat ≤ 70)

/-- ASCII letters, digits and nine marks as they are, and all else in percent codes. -/
inductive IsCoded : Text → Prop
  | nil : IsCoded []
  | plain {c : Char} {s : Text} : isAsciiAlphanumeric c = true ∨ c ∈ "-_.!~*'()".toList →
      IsCoded s → IsCoded (c :: s)
  | code {a b : Char} {s : Text} : isUpperHex a = true → isUpperHex b = true → IsCoded s →
      IsCoded ('%' :: a :: b :: s)

theorem isPlain_iff {c : Char} :
    isPlain c = true ↔ isAsciiAlphanumeric c = true ∨ c ∈ "-_.!~*'()".toList := by
  rw [isPlain, Bool.or_eq_true, List.contains_iff_mem]
  rfl

theorem code_of_isPlain {c : Char} (h : isPlain c = true) : c.toNat < 0x80 ∧ c.toNat ≠ 37 := by
  rw [isPlain_iff] at h
  rcases h with h | h
  · simp only [isAsciiAlphanumeric, isAsciiLetter, isAsciiDigit, Bool.or_eq_true, Bool.and_eq_true,
      decide_eq_true_eq] at h
    omega
  · have hmarks : ("-_.!~*'()".toList.all fun c => c.toNat < 0x80 ∧ c.toNat ≠ 37) = true := by
      decide
    exact of_decide_eq_true (List.all_eq_true.mp hmarks c h)

theorem hexDigit_spec : ∀ n < 16, hexValue? (hexDigit n) = some n ∧
    isUpperHex (hexDigit n) = true := by
  decide

theorem bytes_codeByte {b : Nat} (hb : b < 256) (s : Text) :
    bytes (codeByte b ++ s) = b :: bytes s := by
  have hhigh := (hexDigit_spec (b / 16 % 16) (Nat.mod_lt _ (by decide))).1
  have hlow := (hexDigit_spec (b % 16) (Nat.mod_lt _ (by decide))).1
  have hbyte : b / 16 % 16 * 16 + b % 16 = b := by omega
  show bytes ('%' :: hexDigit (b / 16 % 16) :: hexDigit (b % 16) :: s) = _
  rw [bytes, hhigh, hlow]
  exact congrArg (· :: bytes s) hbyte

theorem bytes_codeBytes {bs : List Nat} (hbs : ∀ b ∈ bs, b < 256) (s : Text) :
    bytes (bs.flatMap codeByte ++ s) = bs ++ bytes s := by
  induction bs with
  | nil => rfl
  | cons b bs ih =>
    rw [List.flatMap_cons, List.append_assoc, bytes_codeByte (hbs b (List.mem_cons_self ..)),
      ih fun b' hb' => hbs b' (List.mem_cons_of_mem b hb'), List.cons_append]

theorem bytes_cons {c : Char} (hc : c ≠ '%') (s : Text) : bytes (c :: s) = c.toNat :: bytes s := by
  rw [bytes]
  rintro a b rest rfl
  exact absurd rfl hc

theorem utf8_cases (c : Char) :
    (c.toNat < 0x80 ∧ utf8 c = [c.toNat]) ∨
    (0x80 ≤ c.toNat ∧ c.toNat < 0x800 ∧
      utf8 c = [0xC0 + c.toNat / 0x40, 0x80 + c.toNat % 0x40]) ∨
    (0x800 ≤ c.toNat ∧ c.toNat < 0x10000 ∧ (c.toNat < 0xD800 ∨ 0xE000 ≤ c.toNat) ∧
      utf8 c = [0xE0 + c.toNat / 0x1000, 0x80 + c.toNat / 0x40 % 0x40, 0x80 + c.toNat % 0x40]) ∨
    (0x10000 ≤ c.toNat ∧ c.toNat < 0x110000 ∧
      utf8 c = [0xF0 + c.toNat / 0x40000, 0x80 + c.toNat / 0x1000 % 0x40,
        0x80 + c.toNat / 0x40 % 0x40, 0x80 + c.toNat % 0x40]) := by
  have hvalid : c.toNat < 0xD800 ∨ 0xDFFF < c.toNat ∧ c.toNat < 0x110000 := c.valid
  rw [utf8]
  split
  · next h => exact .inl ⟨h, rfl⟩
  split
  · next h => exact .inr (.inl ⟨by omega, h, rfl⟩)
  split
  · next h => exact .inr (.inr (.inl ⟨by omega, h, by omega, rfl⟩))
  · exact .inr (.inr (.inr ⟨by omega, by omega, rfl⟩))

theorem utf8_lt {c : Char} {b : Nat} (h : b ∈ utf8 c) : b < 256 := by
  rcases utf8_cases c with ⟨hlt, heq⟩ | ⟨-, hlt, heq⟩ | ⟨-, hlt, -, heq⟩ | ⟨-, hlt, heq⟩ <;>
  · rw [heq] at h
    simp only [List.mem_cons, List.not_mem_nil, or_false] at h
    omega

theorem decodeUtf8From_within {code low high missing x : Nat} (hlow : low ≤ 0x80 + x)
    (hhigh : 0x80 + x ≤ high) (hx : x < 0x40) (rest : List Nat) :
    decodeUtf8From (some ⟨code, low, high, missing + 2⟩) ((0x80 + x) :: rest) =
      decodeUtf8From (some ⟨code * 0x40 + x, 0x80, 0xBF, missing + 1⟩) rest := by
  have hpayload : (0x80 + x) % 0x40 = x := by omega
  rw [decodeUtf8From, advance, if_pos ⟨hlow, hhigh⟩]
  dsimp only
  rw [if_neg (by omega), hpayload]
  rfl

theorem decodeUtf8From_last {code low high x : Nat} (hlow : low ≤ 0x80 + x)
    (hhigh : 0x80 + x ≤ high) (hx : x < 0x40) (rest : List Nat) :
    decodeUtf8From (some ⟨code, low, high, 1⟩) ((0x80 + x) :: rest) =
      Char.ofNat (code * 0x40 + x) :: decodeUtf8From none rest := by
  have hpayload : (0x80 + x) % 0x40 = x := by omega
  rw [decodeUtf8From, advance, if_pos ⟨hlow, hhigh⟩]
  dsimp only
  rw [if_pos (Nat.le_refl 1), hpayload]
  rfl

theorem decodeUtf8From_first {b low high missing : Nat} (hb : 0x80 ≤ b)
    (hafter : sequenceAfter b = some (low, high, missing)) (rest : List Nat) :
    decodeUtf8From none (b :: rest) =
      decodeUtf8From (some ⟨payload b, low, high, missing⟩) rest := by
  rw [decodeUtf8From, begin, if_neg (Nat.not_lt.mpr hb), hafter]
  rfl

theorem sequenceAfter_two {x : Nat} (hleast : 2 ≤ x) (hx : x < 0x20) :
    sequenceAfter (0xC0 + x) = some (0x80, 0xBF, 1) := if_pos (by omega)

theorem sequenceAfter_three {x y : Nat} (hx : x < 0x10) (hy : y < 0x40)
    (hleast : x = 0 → 0x20 ≤ y) (hgap : x = 0xD → y < 0x20) :
    ∃ low high, sequenceAfter (0xE0 + x) = some (low, high, 2) ∧ low ≤ 0x80 + y ∧
      0x80 + y ≤ high := by
  rw [sequenceAfter, if_neg (by omega)]
  split
  · exact ⟨_, _, rfl, by omega, by omega⟩
  split
  · exact ⟨_, _, rfl, by omega, by omega⟩
  · exact ⟨0x80, 0xBF, if_pos (by omega), by omega, by omega⟩

theorem sequenceAfter_four {x y : Nat} (hx : x < 5) (hy : y < 0x40)
    (hleast : x = 0 → 0x10 ≤ y) (hgreatest : x = 4 → y < 0x10) :
    ∃ low high, sequenceAfter (0xF0 + x) = some (low, high, 3) ∧ low ≤ 0x80 + y ∧
      0x80 + y ≤ high := by
  rw [sequenceAfter, if_neg (by omega), if_neg (by omega), if_neg (by omega), if_neg (by omega)]
  split
  · exact ⟨_, _, rfl, by omega, by omega⟩
  split
  · exact ⟨_, _, rfl, by omega, by omega⟩
  · exact ⟨0x80, 0x8F, if_pos (by omega), by omega, by omega⟩

theorem decodeUtf8From_utf8 (c : Char) (rest : List Nat) :
    decodeUtf8From none (utf8 c ++ rest) = c :: decodeUtf8From none rest := by
  rcases utf8_cases c with ⟨hlt, heq⟩ | ⟨hge, hlt, heq⟩ | ⟨hge, hlt, hgap, heq⟩ | ⟨hge, hlt, heq⟩
  · rw [heq, List.singleton_append, decodeUtf8From, begin, if_pos hlt, Char.ofNat_toNat]
    rfl
  · have hafter := sequenceAfter_two (x := c.toNat / 0x40) (by omega) (by omega)
    have hcode : payload (0xC0 + c.toNat / 0x40) * 0x40 + c.toNat % 0x40 = c.toNat := by
      rw [payload, if_pos (by omega)]
      omega
    rw [heq, List.cons_append, decodeUtf8From_first (by omega) hafter, List.singleton_append,
      decodeUtf8From_last (by omega) (by omega) (by omega), hcode, Char.ofNat_toNat]
  · obtain ⟨low, high, hafter, hlow, hhigh⟩ := sequenceAfter_three (x := c.toNat / 0x1000)
      (y := c.toNat / 0x40 % 0x40) (by omega) (by omega) (by omega) (by omega)
    have hcode : (payload (0xE0 + c.toNat / 0x1000) * 0x40 + c.toNat / 0x40 % 0x40) * 0x40 +
        c.toNat % 0x40 = c.toNat := by
      rw [payload, if_neg (by omega), if_pos (by omega)]
      omega
    rw [heq, List.cons_append, decodeUtf8From_first (by omega) hafter, List.cons_append,
      decodeUtf8From_within hlow hhigh (by omega), List.singleton_append,
      decodeUtf8From_last (by omega) (by omega) (by omega), hcode, Char.ofNat_toNat]
  · obtain ⟨low, high, hafter, hlow, hhigh⟩ := sequenceAfter_four (x := c.toNat / 0x40000)
      (y := c.toNat / 0x1000 % 0x40) (by omega) (by omega) (by omega) (by omega)
    have hcode : ((payload (0xF0 + c.toNat / 0x40000) * 0x40 + c.toNat / 0x1000 % 0x40) * 0x40 +
        c.toNat / 0x40 % 0x40) * 0x40 + c.toNat % 0x40 = c.toNat := by
      rw [payload, if_neg (by omega), if_neg (by omega)]
      omega
    rw [heq, List.cons_append, decodeUtf8From_first (by omega) hafter, List.cons_append,
      decodeUtf8From_within hlow hhigh (by omega), List.cons_append,
      decodeUtf8From_within (by omega) (by omega) (by omega), List.singleton_append,
      decodeUtf8From_last (by omega) (by omega) (by omega), hcode, Char.ofNat_toNat]

theorem decodeUtf8_flatMap (s : Text) : decodeUtf8 (s.flatMap utf8) = s := by
  rw [decodeUtf8]
  induction s with
  | nil => rfl
  | cons c s ih => rw [List.flatMap_cons, decodeUtf8From_utf8, ih]

theorem encode_cons (c : Char) (s : Text) :
    encode (c :: s) = (if isPlain c then [c] else (utf8 c).flatMap codeByte) ++ encode s :=
  List.flatMap_cons

theorem IsCoded.codes {t : Text} (ht : IsCoded t) (bs : List Nat) :
    IsCoded (bs.flatMap codeByte ++ t) := by
  induction bs with
  | nil => exact ht
  | cons b bs ih =>
    rw [List.flatMap_cons, List.append_assoc]
    exact .code (hexDigit_spec _ (Nat.mod_lt _ (by decide))).2
      (hexDigit_spec _ (Nat.mod_lt _ (by decide))).2 ih

theorem isCoded_encode (s : Text) : IsCoded (encode s) := by
  induction s with
  | nil => exact .nil
  | cons c s ih =>
    rw [encode_cons]
    split
    · next hplain => exact .plain (isPlain_iff.mp hplain) ih
    · exact ih.codes (utf8 c)

theorem isAscii_of_isUpperHex {c : Char} (h : isUpperHex c = true) : isAscii c = true := by
  simp only [isUpperHex, isAsciiDigit, Bool.or_eq_true, Bool.and_eq_true, decide_eq_true_eq] at h
  rw [isAscii, decide_eq_true_eq]
  omega

theorem IsCoded.isAscii {s : Text} (h : IsCoded s) : ∀ c ∈ s, isAscii c = true := by
  induction h with
  | nil => exact fun c hc => absurd hc List.not_mem_nil
  | plain hplain _ ih =>
    exact List.forall_mem_cons.mpr
      ⟨decide_eq_true (code_of_isPlain (isPlain_iff.mpr hplain)).1, ih⟩
  | code ha hb _ ih =>
    refine List.forall_mem_cons.mpr ⟨by decide, List.forall_mem_cons.mpr ⟨?_, ?_⟩⟩
    · exact isAscii_of_isUpperHex ha
    · exact List.forall_mem_cons.mpr ⟨isAscii_of_isUpperHex hb, ih⟩

theorem decodeFrom_of_isAscii {s : Text} (h : ∀ c ∈ s, isAscii c = true) (run : Text) :
    decodeFrom run s = decodeUtf8 (bytes (run.reverse ++ s)) := by
  induction s generalizing run with
  | nil => rw [decodeFrom, closeRun, List.append_nil, List.append_nil]
  | cons c s ih =>
    rw [decodeFrom, if_pos (h c (List.mem_cons_self ..)),
      ih (fun d hd => h d (List.mem_cons_of_mem c hd)), List.reverse_cons, List.append_assoc,
      List.singleton_append]

theorem bytes_encode (s : Text) : bytes (encode s) = s.flatMap utf8 := by
  induction s with
  | nil => rfl
  | cons c s ih =>
    rw [encode_cons, List.flatMap_cons]
    split
    · next hplain =>
      obtain ⟨hlt, hne⟩ := code_of_isPlain hplain
      have hutf8 : utf8 c = [c.toNat] := if_pos hlt
      have hpercent : c ≠ '%' := fun heq => hne (congrArg Char.toNat heq)
      rw [List.singleton_append, bytes_cons hpercent, ih, hutf8, List.singleton_append]
    · rw [bytes_codeBytes (fun b hb => utf8_lt hb), ih]

theorem decode_encode (s : Text) : decode (encode s) = s := by
  rw [decode, decodeFrom_of_isAscii (isCoded_encode s).isAscii, List.reverse_nil, List.nil_append,
    bytes_encode, decodeUtf8_flatMap]

end LitNote.Text.Percent

namespace LitNote.Template

open Text.Percent (IsCoded)

/-- A text is coded by plain characters and percent codes alone, and coding and reading one after
the other leave it as it is. -/
theorem applyChain_urlCoding (s : Text) :
    (∃ t, Formatter.apply "urlencode".toList (.text s) [] = pure t ∧ IsCoded t) ∧
      Formatter.applyChain (.text s) ["urlencode".toList, "urldecode".toList] = pure s := by
  constructor
  · exact ⟨_, Formatter.apply_of_draw (f := .urlEncode) (by decide) rfl rfl,
      Text.Percent.isCoded_encode s⟩
  · rw [Formatter.applyChain_cons (f := .urlEncode) (by decide) (by decide) (by decide) rfl rfl]
    refine applyChain_single (f := .urlDecode) (by decide) (by decide) (by decide) rfl ?_
    show (pure (Text.Percent.decode (Text.Percent.encode s)) : Drawing Text) = pure s
    rw [Text.Percent.decode_encode]

end LitNote.Template
