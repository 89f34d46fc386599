import LitNote.Number.Integer
import Mathlib.Tactic.Ring

/-!
The decimal text of a number: digits without a zero in front, which spell the number.  Main
statement: of two runs of digits of one length, the one that comes first spells the smaller number.
-/

namespace LitNote

theorem Text.isBlank_of_isAsciiDigit {c : Char} (h : isAsciiDigit c = true) :
    isBlank c = false := by
  simp only [isAsciiDigit, Bool.and_eq_true, decide_eq_true_eq] at h
  simp only [isBlank, Bool.or_eq_false_iff, Bool.and_eq_false_iff, decide_eq_false_iff_not,
    beq_eq_false_iff_ne]
  omega

theorem natText_ne_nil (n : Nat) : natText n ≠ [] := Nat.toDigits_ne_nil

theorem isAsciiDigit_of_mem_natText {n : Nat} {c : Char} (h : c ∈ natText n) :
    Text.isAsciiDigit c = true := by
  have hd := Nat.isDigit_of_mem_toDigits (by decide) (Nat.le_refl 10) h
  simp only [Char.isDigit, Bool.and_eq_true, decide_eq_true_eq, UInt32.le_iff_toNat_le] at hd
  simp only [Text.isAsciiDigit, Bool.and_eq_true, decide_eq_true_eq]
  exact hd

theorem head?_natText {n : Nat} (h : n ≠ 0) : (natText n).head? ≠ some '0' := by
  induction n using Nat.strongRecOn with
  | ind n ih =>
    rw [natText, Nat.toDigits_eq_if (by decide)]
    split
    · next hn =>
      have hdigit : ∀ k < 10, k ≠ 0 → [Nat.digitChar k].head? ≠ some '0' := by decide
      exact hdigit n hn h
    · next hn =>
      have ih := ih (n / 10) (by omega) (by omega)
      obtain ⟨c, cs, hc⟩ := List.exists_cons_of_ne_nil (natText_ne_nil (n / 10))
      rw [hc] at ih
      rw [← natText, hc]
      exact ih

theorem ofDigits_natText (n : Nat) :
    Integer.ofDigits ((natText n).map fun c => c.toNat - 48) = n := by
  have h := Nat.ofDigitChars_toDigits (n := n) (b := 10) (by decide) (Nat.le_refl 10)
  rw [Nat.ofDigitChars_eq_foldl] at h
  rw [Integer.ofDigits, List.foldl_map]
  simp only [Nat.mul_comm 10] at h
  exact h

theorem natText_length_le {n : Int} (h : Integer.tooLong n = false) :
    (natText n.natAbs).length ≤ Integer.maxDigits := by
  rw [Integer.tooLong, decide_eq_false_iff_not, Nat.not_le] at h
  have hpos : 0 < Integer.maxDigits := by decide
  generalize Integer.maxDigits = k at h hpos ⊢
  exact (Nat.length_toDigits_le_iff (by decide) hpos).mpr h

def spelledBy (s : Text) : Nat := Integer.ofDigits (s.map fun c => c.toNat - 48)

def AreDigits (s : Text) : Prop := ∀ c ∈ s, Text.isAsciiDigit c = true

section
variable {s t u v : Text} {c : Char}

theorem spelledBy_cons (c : Char) (s : Text) :
    spelledBy (c :: s) = (c.toNat - 48) * 10 ^ s.length + spelledBy s := by
  have hfold (n : Nat) (ds : List Nat) : ds.foldl (fun n d => n * 10 + d) n =
      n * 10 ^ ds.length + ds.foldl (fun n d => n * 10 + d) 0 := by
    induction ds generalizing n with
    | nil => simp
    | cons d ds ih =>
      rw [List.foldl_cons, List.foldl_cons, ih (n * 10 + d), ih (0 * 10 + d), List.length_cons]
      ring
  have hcons := hfold (0 * 10 + (c.toNat - 48)) (s.map fun c => c.toNat - 48)
  rw [Nat.zero_mul, Nat.zero_add, List.length_map] at hcons
  unfold spelledBy Integer.ofDigits
  rw [List.map_cons, List.foldl_cons, Nat.zero_mul, Nat.zero_add]
  exact hcons

theorem digit_lt (h : Text.isAsciiDigit c = true) : c.toNat - 48 < 10 := by
  simp only [Text.isAsciiDigit, Bool.and_eq_true, decide_eq_true_eq] at h
  omega

theorem spelledBy_lt (h : AreDigits s) : spelledBy s < 10 ^ s.length := by
  induction s with
  | nil => decide
  | cons c s ih =>
    have hc := digit_lt (h c (List.mem_cons_self ..))
    have ih := ih fun d hd => h d (List.mem_cons_of_mem c hd)
    have hle : (c.toNat - 48) * 10 ^ s.length ≤ 9 * 10 ^ s.length :=
      Nat.mul_le_mul_right _ (Nat.le_of_lt_succ hc)
    rw [spelledBy_cons, List.length_cons, Nat.pow_succ]
    omega

theorem tooLong_spelledBy (h : AreDigits s) (hlength : s.length ≤ Integer.maxDigits) :
    Integer.tooLong (spelledBy s) = false := by
  have hlt := spelledBy_lt h
  rw [Integer.tooLong, decide_eq_false_iff_not, Nat.not_le, Int.natAbs_natCast]
  generalize Integer.maxDigits = k at hlength ⊢
  exact hlt.trans_le (Nat.pow_le_pow_right (by decide) hlength)

theorem lt_iff_toNat {c d : Char} : c < d ↔ c.toNat < d.toNat := UInt32.lt_iff_toNat_lt

theorem lt_iff_spelledBy_lt (hlength : s.length = t.length) (hs : AreDigits s)
    (ht : AreDigits t) : s < t ↔ spelledBy s < spelledBy t := by
  induction s generalizing t with
  | nil =>
    cases t with
    | nil => simp
    | cons d t => cases hlength
  | cons c s ih =>
    cases t with
    | nil => cases hlength
    | cons d t =>
      have hst : s.length = t.length := Nat.succ.inj hlength
      have hs' : AreDigits s := fun e he => hs e (List.mem_cons_of_mem c he)
      have ht' : AreDigits t := fun e he => ht e (List.mem_cons_of_mem d he)
      have hsmall := spelledBy_lt hs'
      have hsmall' := spelledBy_lt ht'
      have hc := hs c (List.mem_cons_self ..)
      have hd := ht d (List.mem_cons_self ..)
      simp only [Text.isAsciiDigit, Bool.and_eq_true, decide_eq_true_eq] at hc hd
      rw [List.cons_lt_cons_iff, ih hst hs' ht', spelledBy_cons, spelledBy_cons, hst,
        lt_iff_toNat]
      rw [hst] at hsmall
      generalize 10 ^ t.length = p at hsmall hsmall'
      -- The first digits decide unless they are the same, for what follows is less than one unit.
      rcases Nat.lt_trichotomy c.toNat d.toNat with hlt | heq | hgt
      · have hunit : (c.toNat - 48 + 1) * p ≤ (d.toNat - 48) * p :=
          Nat.mul_le_mul_right p (by omega)
        rw [Nat.add_mul, Nat.one_mul] at hunit
        exact iff_of_true (.inl hlt) (by omega)
      · have hchar : c = d := Char.toNat_inj.mp heq
        rw [hchar]
        simp
      · have hunit : (d.toNat - 48 + 1) * p ≤ (c.toNat - 48) * p :=
          Nat.mul_le_mul_right p (by omega)
        rw [Nat.add_mul, Nat.one_mul] at hunit
        refine iff_of_false ?_ (by omega)
        rintro (hlt | ⟨rfl, -⟩)
        · omega
        · omega

theorem append_lt_append_iff (h : u.length = v.length) :
    u ++ s < v ++ t ↔ u < v ∨ u = v ∧ s < t := by
  induction u generalizing v with
  | nil =>
    cases v with
    | nil => simp
    | cons d v => cases h
  | cons c u ih =>
    cases v with
    | nil => cases h
    | cons d v =>
      rw [List.cons_append, List.cons_append, List.cons_lt_cons_iff, List.cons_lt_cons_iff,
        ih (Nat.succ.inj h), List.cons.injEq]
      tauto

theorem digits_lt_iff (hu : AreDigits u) (hv : AreDigits v)
    (hmark : ∀ d, Text.isAsciiDigit d = true → c < d) :
    u ++ c :: s < v ++ c :: t ↔ u < v ∨ u = v ∧ s < t := by
  induction u generalizing v with
  | nil =>
    cases v with
    | nil => simp
    | cons d v =>
      have hd := hmark d (hv d (List.mem_cons_self ..))
      rw [List.nil_append, List.cons_append, List.cons_lt_cons_iff]
      exact iff_of_true (.inl hd) (.inl (List.nil_lt_cons d v))
  | cons e u ih =>
    have he := hmark e (hu e (List.mem_cons_self ..))
    have hu' : AreDigits u := fun d hd => hu d (List.mem_cons_of_mem e hd)
    cases v with
    | nil =>
      rw [List.nil_append, List.cons_append, List.cons_lt_cons_iff]
      refine iff_of_false ?_ (by simp)
      rintro (hlt | ⟨rfl, -⟩)
      · exact Char.lt_asymm hlt he
      · exact Char.lt_irrefl _ he
    | cons d v =>
      have hv' : AreDigits v := fun d' hd' => hv d' (List.mem_cons_of_mem d hd')
      rw [List.cons_append, List.cons_append, List.cons_lt_cons_iff, List.cons_lt_cons_iff,
        ih hu' hv', List.cons.injEq]
      tauto

end

theorem areDigits_natText (n : Nat) : AreDigits (natText n) :=
  fun _ hc => isAsciiDigit_of_mem_natText hc

theorem natText_lt_iff {m n : Nat} (h : (natText m).length = (natText n).length) :
    natText m < natText n ↔ m < n := by
  have hm : spelledBy (natText m) = m := ofDigits_natText m
  have hn : spelledBy (natText n) = n := ofDigits_natText n
  rw [lt_iff_spelledBy_lt h (areDigits_natText m) (areDigits_natText n), hm, hn]

theorem isAsciiDigit_of_mem_paddedNat {width n : Nat} {c : Char} (h : c ∈ paddedNat width n) :
    Text.isAsciiDigit c = true := by
  rcases List.mem_append.mp h with h | h
  · rw [List.eq_of_mem_replicate h]
    decide
  · exact isAsciiDigit_of_mem_natText h

theorem spelledBy_paddedNat (width n : Nat) : spelledBy (paddedNat width n) = n := by
  have hn : spelledBy (natText n) = n := ofDigits_natText n
  have hzeros (k : Nat) : spelledBy (List.replicate k '0' ++ natText n) = n := by
    induction k with
    | zero => exact hn
    | succ k ih =>
      rw [List.replicate_succ, List.cons_append, spelledBy_cons, ih]
      simp
  exact hzeros _

section
variable {width m n : Nat}

theorem length_paddedNat (hwidth : 0 < width) (h : n < 10 ^ width) :
    (paddedNat width n).length = width := by
  have hle : (natText n).length ≤ width := (Nat.length_toDigits_le_iff (by decide) hwidth).mpr h
  rw [paddedNat, List.length_append, List.length_replicate]
  omega

theorem paddedNat_lt_iff (hwidth : 0 < width) (hm : m < 10 ^ width) (hn : n < 10 ^ width) :
    paddedNat width m < paddedNat width n ↔ m < n := by
  have hlength : (paddedNat width m).length = (paddedNat width n).length := by
    rw [length_paddedNat hwidth hm, length_paddedNat hwidth hn]
  rw [lt_iff_spelledBy_lt hlength (fun _ => isAsciiDigit_of_mem_paddedNat)
    (fun _ => isAsciiDigit_of_mem_paddedNat), spelledBy_paddedNat, spelledBy_paddedNat]

theorem paddedNat_inj : paddedNat width m = paddedNat width n ↔ m = n := by
  refine ⟨fun h => ?_, fun h => by rw [h]⟩
  rw [← spelledBy_paddedNat width m, h, spelledBy_paddedNat]

end

end LitNote
