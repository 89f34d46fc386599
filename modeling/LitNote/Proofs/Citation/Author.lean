import LitNote.Citation.Author
import LitNote.Proofs.Failure
import LitNote.Proofs.Text.LowerCase

/-!
The characters of surnames.  Main statement: a surname consists of small ASCII letters, digits,
underscores and hyphens exactly if there is no dotless i and no long s in the name that it comes
from.
-/

namespace LitNote.Author

def isPlainNameChar (c : Char) : Bool :=
  (97 ≤ c.toNat && c.toNat ≤ 122) || Text.isAsciiDigit c || c == '_' || c == '-'

def IsStray (c : Char) : Prop := c = 'ı' ∨ c = 'ſ'

instance (c : Char) : Decidable (IsStray c) := inferInstanceAs (Decidable (_ ∨ _))

theorem isStray_iff {c : Char} : IsStray c ↔ c.toNat = 0x131 ∨ c.toNat = 0x17F := by
  rw [IsStray, ← Char.toNat_inj, ← Char.toNat_inj]
  rfl

theorem not_isPlainNameChar_of_isStray {c : Char} (h : IsStray c) : isPlainNameChar c = false := by
  rcases h with rfl | rfl <;> decide

theorem isNameChar_iff {c : Char} (h : Text.IsLower c) :
    isNameChar c = true ↔ isPlainNameChar c = true ∨ IsStray c := by
  rw [isNameChar, (Text.isLower_iff.mp h).2.2, isStray_iff]
  simp only [isPlainNameChar, Text.isAsciiDigit, Bool.or_eq_true, Bool.and_eq_true,
    decide_eq_true_eq, beq_iff_eq, or_assoc]

def surnameText (author : Value) : Except Failure Text := do
  let last ← surname author
  if last.isSet then last.asText else return []

theorem lastName_eq (author : Value) :
    lastName author = (surnameText author).map fun s => (Text.toLower s).filter isNameChar := by
  rw [lastName, surnameText]
  cases surname author with
  | error e => rfl
  | ok last =>
    simp only [Failure.ok_bind]
    split
    · cases last.asText <;> rfl
    · rfl

section
variable {s : Text} {c : Char}

theorem mem_cleaned_iff :
    c ∈ (Text.toLower s).filter isNameChar ↔
      c ∈ Text.toLower s ∧ (isPlainNameChar c = true ∨ IsStray c) := by
  rw [List.mem_filter]
  exact and_congr_right fun hc => isNameChar_iff (Text.isLower_of_mem_toLower hc)

theorem isPlain_cleaned_iff :
    (∀ c ∈ (Text.toLower s).filter isNameChar, isPlainNameChar c = true) ↔
      ∀ c ∈ s, ¬IsStray c := by
  constructor
  · intro h c hc hstray
    have hkept := mem_cleaned_iff.mpr ⟨(Text.mem_toLower_iff hstray).mpr hc, .inr hstray⟩
    have hplain := h c hkept
    rw [not_isPlainNameChar_of_isStray hstray] at hplain
    cases hplain
  · intro h c hc
    obtain ⟨hmem, hplain | hstray⟩ := mem_cleaned_iff.mp hc
    · exact hplain
    · exact absurd hstray (h c ((Text.mem_toLower_iff hstray).mp hmem))

end

theorem mem_unknown {c : Char} (h : c ∈ unknown) : isPlainNameChar c = true := by
  have hall : unknown.all isPlainNameChar = true := by decide
  exact List.all_eq_true.mp hall c h

theorem or_unknown {r : Except Failure Text} {name : Text}
    (h : r.bind (fun s => .ok (if s.isEmpty then unknown else s)) = .ok name) :
    name = unknown ∨ name ≠ [] ∧ r = .ok name := by
  obtain ⟨s, rfl, h⟩ := Failure.bind_eq_ok_iff.mp h
  cases h
  split
  · exact .inl rfl
  · next hne => exact .inr ⟨fun hnil => hne (List.isEmpty_iff.mpr hnil), rfl⟩

theorem part_cases {citation : Value} {name : Text} (h : part citation = .ok name) :
    name = unknown ∨ name ≠ [] ∧ ∃ author, lastName author = .ok name := by
  obtain ⟨fields, -, h⟩ := Failure.bind_eq_ok_iff.mp h
  obtain ⟨authors, -, h⟩ := Failure.bind_eq_ok_iff.mp h
  dsimp only at h
  split at h
  · exact (or_unknown h).imp_right fun ⟨hne, hname⟩ => ⟨hne, _, hname⟩
  · exact (or_unknown h).imp_right fun ⟨hne, hname⟩ => ⟨hne, _, hname⟩
  · cases h
    exact .inl rfl

theorem of_lastName {author : Value} {name : Text} (h : lastName author = .ok name) :
    ∃ s, surnameText author = .ok s ∧ (Text.toLower s).filter isNameChar = name := by
  rw [lastName_eq] at h
  exact Failure.map_eq_ok_iff.mp h

theorem exists_of_lastName {author : Value} {name : Text} (h : lastName author = .ok name) :
    ∃ s, surnameText author = .ok s ∧ (∀ c ∈ name, isPlainNameChar c = true ∨ IsStray c) ∧
      ((∀ c ∈ name, isPlainNameChar c = true) ↔ ∀ c ∈ s, ¬IsStray c) := by
  obtain ⟨s, hs, rfl⟩ := of_lastName h
  exact ⟨s, hs, fun c hc => (mem_cleaned_iff.mp hc).2, isPlain_cleaned_iff⟩

theorem toLower_of_part {citation : Value} {name : Text} (h : part citation = .ok name) :
    Text.toLower name = name := by
  rcases part_cases h with rfl | ⟨-, author, hauthor⟩
  · decide
  · obtain ⟨s, -, rfl⟩ := of_lastName hauthor
    exact Text.toLower_of_isLower fun c hc =>
      Text.isLower_of_mem_toLower (List.mem_filter.mp hc).1

/-- A surname consists of plain characters exactly if the name holds neither a dotless i nor a long
s, which stay as they are; nothing else does.  The author of a citation is never empty, and is
`unknown` or such a surname. -/
theorem lastName_plain (author citation : Value) :
    (∀ name, lastName author = .ok name → ∃ s, surnameText author = .ok s ∧
      (∀ c ∈ name, isPlainNameChar c = true ∨ IsStray c) ∧
      ((∀ c ∈ name, isPlainNameChar c = true) ↔ ∀ c ∈ s, ¬IsStray c)) ∧
    ∀ name, part citation = .ok name → name ≠ [] ∧
      (∀ c ∈ name, isPlainNameChar c = true ∨ IsStray c) ∧
      (name = unknown ∨ ∃ entry s, lastName entry = .ok name ∧ surnameText entry = .ok s ∧
        ((∀ c ∈ name, isPlainNameChar c = true) ↔ ∀ c ∈ s, ¬IsStray c)) := by
  constructor
  · exact fun name => exists_of_lastName
  · intro name h
    rcases part_cases h with rfl | ⟨hne, entry, hentry⟩
    · exact ⟨by decide, fun c hc => .inl (mem_unknown hc), .inl rfl⟩
    · obtain ⟨s, hs, hchars, hplain⟩ := exists_of_lastName hentry
      exact ⟨hne, hchars, .inr ⟨entry, s, hentry, hs, hplain⟩⟩

theorem lastName_plain_accents :
    lastName (.text "Núñez y Vega, M.".toList) = .ok "nezyvega".toList ∧
      (∀ c ∈ "nezyvega".toList, isPlainNameChar c = true) ∧
      part (.record (Record.ofFields
        [("author", .list [.text "Núñez y Vega, M.".toList])])) = .ok "nezyvega".toList ∧
      "nezyvega".toList ≠ [] := by
  have hname : lastName (.text "Núñez y Vega, M.".toList) = .ok "nezyvega".toList := by
    decide +kernel
  have hpart : part (.record (Record.ofFields
      [("author", .list [.text "Núñez y Vega, M.".toList])])) = .ok "nezyvega".toList := by
    decide +kernel
  obtain ⟨hlast, hauthor⟩ := lastName_plain (.text "Núñez y Vega, M.".toList)
    (.record (Record.ofFields [("author", .list [.text "Núñez y Vega, M.".toList])]))
  obtain ⟨s, hs, -, hplain⟩ := hlast _ hname
  have hsurname : surnameText (.text "Núñez y Vega, M.".toList) = .ok "Núñez y Vega".toList := by
    decide +kernel
  cases hs.symm.trans hsurname
  have hstray : 'ı' ∉ "Núñez y Vega".toList ∧ 'ſ' ∉ "Núñez y Vega".toList := by decide
  have hnone : ∀ c ∈ "Núñez y Vega".toList, ¬IsStray c := by
    rintro c hc (rfl | rfl)
    · exact hstray.1 hc
    · exact hstray.2 hc
  exact ⟨hname, hplain.mpr hnone, hpart, (hauthor _ hpart).1⟩

theorem lastName_dotless :
    lastName (.record (Record.ofFields [("family", .text "Yıldız".toList)])) =
        .ok "yıldız".toList ∧
      ¬∀ c ∈ "yıldız".toList, isPlainNameChar c = true := by
  have hname : lastName (.record (Record.ofFields [("family", .text "Yıldız".toList)])) =
      .ok "yıldız".toList := by decide +kernel
  have hplain : isPlainNameChar 'ı' = false := by decide
  refine ⟨hname, fun h => ?_⟩
  rw [h 'ı' (by decide)] at hplain
  cases hplain

end LitNote.Author
