import LitNote.Text.Casing
import LitNote.Text.Letter
import Mathlib.Data.List.Basic

/-!
Upper case and marks.  Main statement: what a character changes into is no mark, unless it is the
character itself.
-/

namespace LitNote.Text

def IsBeyondMarks (c : Char) : Prop := 65 ≤ c.toNat ∧ c.toNat ≠ 92

theorem toNat_ofNat {n : Nat} (h : n.isValidChar) : (Char.ofNat n).toNat = n := by
  rw [Char.ofNat, dif_pos h]
  rfl

theorem toNat_lt_of_isAsciiAlphanumeric {c : Char} (h : isAsciiAlphanumeric c = true) :
    c.toNat < 128 := by
  simp only [isAsciiAlphanumeric, isAsciiLetter, isAsciiDigit, Bool.or_eq_true, Bool.and_eq_true,
    decide_eq_true_eq] at h
  omega

theorem of_toNat_lt {P : Char → Prop} (h : ∀ n < 128, P (Char.ofNat n)) {c : Char}
    (hc : c.toNat < 128) : P c := by
  have hcode := h c.toNat hc
  rwa [Char.ofNat_toNat] at hcode

theorem upper_ascii : ∀ n < 128, (Char.ofNat n).toUpper = Char.ofNat n ∨
    65 ≤ (Char.ofNat n).toUpper.toNat ∧ (Char.ofNat n).toUpper.toNat ≠ 92 := by
  decide

def isSafeCode (n : Nat) : Bool := 65 ≤ n && n < 0xD800 && n != 92

theorem isBeyondMarks_of_isSafeCode {n : Nat} (h : isSafeCode n = true) :
    IsBeyondMarks (Char.ofNat n) := by
  simp only [isSafeCode, Bool.and_eq_true, decide_eq_true_eq, bne_iff_ne] at h
  rw [IsBeyondMarks, toNat_ofNat (.inl h.1.2)]
  exact ⟨h.1.1, h.2⟩

theorem isSafeCode_sequences :
    ∀ e ∈ upperSequences, ∀ n ∈ e.2, isSafeCode n = true := by
  decide +kernel

def CaseRun.isSafe (run : CaseRun) : Bool :=
  let first := run.first + run.shift
  let last := run.last + run.shift
  (65 ≤ first && last < 92) || (93 ≤ first && last < 0xD800) || (0xE000 ≤ first && last < 0x110000)

theorem isSafe_upperRuns : ∀ run ∈ upperRuns, run.isSafe = true := by
  decide +kernel

theorem isValidChar_shift {run : CaseRun} (hrun : run.isSafe = true) {n : Nat}
    (hn : run.covers n = true) : (Int.toNat (n + run.shift)).isValidChar := by
  simp only [CaseRun.covers, Bool.and_eq_true, decide_eq_true_eq] at hn
  simp only [CaseRun.isSafe, Bool.or_eq_true, Bool.and_eq_true, decide_eq_true_eq] at hrun
  rw [Nat.isValidChar]
  omega

theorem isBeyondMarks_shift {run : CaseRun} (hrun : run.isSafe = true) {n : Nat}
    (hn : run.covers n = true) : IsBeyondMarks (Char.ofNat (Int.toNat (n + run.shift))) := by
  rw [IsBeyondMarks, toNat_ofNat (isValidChar_shift hrun hn)]
  simp only [CaseRun.covers, Bool.and_eq_true, decide_eq_true_eq] at hn
  simp only [CaseRun.isSafe, Bool.or_eq_true, Bool.and_eq_true, decide_eq_true_eq] at hrun
  omega

theorem isBeyondMarks_of_mem_upperOf {c d : Char} (h : d ∈ upperOf c) :
    d = c ∨ IsBeyondMarks d := by
  rw [upperOf] at h
  split at h
  · next hascii =>
    rw [List.mem_singleton.mp h]
    have hupper := upper_ascii c.toNat hascii
    rwa [Char.ofNat_toNat] at hupper
  split at h
  · next n codes hfind =>
    obtain ⟨code, hcode, rfl⟩ := List.mem_map.mp h
    have hmem := List.mem_of_find?_eq_some hfind
    exact .inr (isBeyondMarks_of_isSafeCode (isSafeCode_sequences _ hmem code hcode))
  · rw [List.mem_singleton.mp h, shiftCase]
    split
    · next run hfind =>
      have hcovers := List.find?_some hfind
      have hsafe := isSafe_upperRuns run (List.mem_of_find?_eq_some hfind)
      exact .inr (isBeyondMarks_shift hsafe hcovers)
    · exact .inl rfl

theorem isBeyondMarks_of_mem_toUpper {s : List Char} {d : Char} (h : d ∈ toUpper s) :
    d ∈ s ∨ IsBeyondMarks d := by
  obtain ⟨c, hc, hd⟩ := List.mem_flatMap.mp h
  obtain rfl | hbeyond := isBeyondMarks_of_mem_upperOf hd
  · exact .inl hc
  · exact .inr hbeyond

end LitNote.Text
