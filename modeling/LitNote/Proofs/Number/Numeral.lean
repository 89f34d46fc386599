import LitNote.Proofs.Value.Notation

/-!
Runs of decimal digits of any script.  Main statement: such a run is read as the number that its
digits spell, unless there are too many of them.
-/

namespace LitNote

namespace Text

def blankCodes : List Nat :=
  [9, 10, 11, 12, 13, 28, 29, 30, 31, 32, 0x85, 0xA0, 0x1680, 0x2000, 0x2001, 0x2002, 0x2003,
    0x2004, 0x2005, 0x2006, 0x2007, 0x2008, 0x2009, 0x200A, 0x2028, 0x2029, 0x202F, 0x205F, 0x3000]

theorem mem_blankCodes {c : Char} (h : isBlank c = true) : c.toNat ∈ blankCodes := by
  simp only [isBlank, Bool.or_eq_true, Bool.and_eq_true, decide_eq_true_eq, beq_iff_eq] at h
  simp only [blankCodes, List.mem_cons, List.not_mem_nil, or_false]
  omega

theorem blankCodes_apart : ∀ n ∈ blankCodes, n < 48 ∨ 57 < n ∧ decimalDigits.offset? n = none := by
  decide

theorem isBlank_of_isDecimalDigit {c : Char} (h : isDecimalDigit c = true) : isBlank c = false := by
  refine Bool.eq_false_iff.mpr fun hblank => ?_
  have hapart := blankCodes_apart c.toNat (mem_blankCodes hblank)
  rw [isDecimalDigit, digitValue?] at h
  split at h
  · split at h
    · next hascii =>
      simp only [isAsciiDigit, Bool.and_eq_true, decide_eq_true_eq] at hascii
      omega
    · cases h
  · next hbeyond =>
    rw [(hapart.resolve_left (by omega)).2] at h
    cases h

end Text

structure IsNumeral (s : Text) : Prop where
  ne_nil : s ≠ []
  digits : ∀ c ∈ s, Text.isDecimalDigit c = true

theorem isNumeral_iff {s : Text} :
    IsNumeral s ↔ s ≠ [] ∧ s.all Text.isDecimalDigit = true :=
  ⟨fun h => ⟨h.ne_nil, List.all_eq_true.mpr h.digits⟩, fun h => ⟨h.1, List.all_eq_true.mp h.2⟩⟩

instance (s : Text) : Decidable (IsNumeral s) := decidable_of_iff _ isNumeral_iff.symm

def numberOf (s : Text) : Nat := Integer.ofDigits (s.map fun c => (Text.digitValue? c).getD 0)

namespace IsNumeral

variable {s : Text}

theorem not_mem (h : IsNumeral s) {c : Char} (hc : Text.isDecimalDigit c = false) : c ∉ s := by
  intro hmem
  rw [h.digits c hmem] at hc
  cases hc

theorem not_blank (h : IsNumeral s) : ∀ c ∈ s, Text.isBlank c = false :=
  fun c hc => Text.isBlank_of_isDecimalDigit (h.digits c hc)

end IsNumeral

namespace Integer

variable {s : Text}

theorem spanDigits_of_digits (h : ∀ c ∈ s, Text.isDecimalDigit c = true) :
    spanDigits s = (s.map fun c => (Text.digitValue? c).getD 0, []) := by
  induction s with
  | nil => rfl
  | cons c s ih =>
    obtain ⟨d, hd⟩ := Option.isSome_iff_exists.mp (h c (List.mem_cons_self ..))
    have hd' : spanDigits.digitValue? c = some d := hd
    rw [spanDigits, hd', ih fun e he => h e (List.mem_cons_of_mem c he), List.map_cons, hd]
    rfl

theorem ofRun_numeral (hlength : s.length ≤ maxDigits) :
    ofRun false (s.map fun c => (Text.digitValue? c).getD 0) = .ok (numberOf s) := by
  rw [ofRun, List.length_map, if_neg (Nat.not_lt.mpr hlength)]
  rfl

theorem leading_numeral (h : IsNumeral s) (hlength : s.length ≤ maxDigits) :
    leading s = .ok (some (numberOf s)) := by
  obtain ⟨c, rest, rfl⟩ := List.exists_cons_of_ne_nil h.ne_nil
  have hminus : c ≠ '-' := fun hc => h.not_mem (c := '-') (by decide) (hc ▸ List.mem_cons_self ..)
  have hplus : c ≠ '+' := fun hc => h.not_mem (c := '+') (by decide) (hc ▸ List.mem_cons_self ..)
  have hsign := sign_trimStart_cons (h.not_blank c (List.mem_cons_self ..)) hminus hplus rest
  have hrun := ofRun_numeral hlength
  rw [List.map_cons] at hrun
  rw [leading, hsign]
  dsimp only
  rw [spanDigits_of_digits h.digits, List.map_cons]
  dsimp only
  rw [hrun]
  rfl

end Integer

end LitNote
