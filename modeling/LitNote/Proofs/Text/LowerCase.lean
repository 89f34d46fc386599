import LitNote.Proofs.Text.Casing

/-!
Lower case.  Main statements: a text whose characters are in lower case stays as it is, and every
text consists of such characters once it has been put into lower case.
-/

namespace LitNote.Text

def IsLower (c : Char) : Prop := c.toNat ≠ 0x3A3 ∧ lowerOf c = [c]

instance (c : Char) : Decidable (IsLower c) := inferInstanceAs (Decidable (_ ∧ _))

theorem isLower_iff {c : Char} :
    IsLower c ↔ c.toNat ≠ 0x3A3 ∧ c.toNat ≠ 0x130 ∧ lowerChar c = c := by
  rw [IsLower, lowerOf]
  split <;> simp_all

theorem lowerAfter_of_isLower {s : List Char} (h : ∀ c ∈ s, IsLower c) (before : List Char) :
    lowerAfter before s = s := by
  induction s generalizing before with
  | nil => rfl
  | cons c s ih =>
    obtain ⟨hsigma, hone⟩ := h c (List.mem_cons_self ..)
    rw [lowerAfter, if_neg hsigma, hone, ih fun d hd => h d (List.mem_cons_of_mem c hd)]
    rfl

theorem toLower_of_isLower {s : List Char} (h : ∀ c ∈ s, IsLower c) : toLower s = s :=
  lowerAfter_of_isLower h []

def CaseRun.image (run : CaseRun) : CaseRun :=
  ⟨(run.first + run.shift).toNat, (run.last + run.shift).toNat, run.step, 0⟩

def CaseRun.isApart (run other : CaseRun) : Bool :=
  Nat.blt run.last other.first || Nat.blt other.last run.first ||
    ((run.step == 2 || run.first == run.last) && other.step == 2 &&
      run.first % 2 != other.first % 2)

theorem isApart_lowerRuns :
    (lowerRuns.map CaseRun.image).all (fun run => lowerRuns.all run.isApart) = true := by
  decide +kernel

theorem isSafe_lowerRuns : lowerRuns.all CaseRun.isSafe = true := by
  decide +kernel

theorem covers_eq_false_of_isApart {run other : CaseRun} (h : run.image.isApart other = true)
    (hsafe : run.isSafe = true) {n : Nat} (hn : run.covers n = true) :
    other.covers (Int.toNat (n + run.shift)) = false := by
  simp only [CaseRun.covers, Bool.and_eq_true, decide_eq_true_eq, beq_iff_eq] at hn
  simp only [CaseRun.isSafe, Bool.or_eq_true, Bool.and_eq_true, decide_eq_true_eq] at hsafe
  simp only [CaseRun.isApart, CaseRun.image, Nat.blt_eq, Bool.or_eq_true, Bool.and_eq_true,
    beq_iff_eq, bne_iff_ne] at h
  rw [Bool.eq_false_iff]
  intro hother
  simp only [CaseRun.covers, Bool.and_eq_true, decide_eq_true_eq, beq_iff_eq] at hother
  rcases h with (hbelow | habove) | ⟨⟨hsteps, htwo⟩, hparity⟩
  · omega
  · omega
  · rw [htwo] at hother
    rcases hsteps with hstep | hone
    · rw [hstep] at hn
      omega
    · omega

/-- The dotted capital I, the dotless i and the long s: no character of a run changes into them. -/
def lonely : List Nat := [0x130, 0x131, 0x17F]

theorem lonely_lowerRuns :
    lowerRuns.all (fun run =>
      lonely.all fun m => !run.covers (Int.toNat (m - run.shift))) = true := by
  decide +kernel

theorem shift_ne_of_lonely {run : CaseRun} (hrun : run ∈ lowerRuns) {n m : Nat}
    (hn : run.covers n = true) (hm : m ∈ lonely) : Int.toNat (n + run.shift) ≠ m := by
  intro heq
  have hpos : ∀ m ∈ lonely, 0 < m := by decide
  have hpos := hpos m hm
  have hback : Int.toNat (m - run.shift) = n := by omega
  have hnot := List.all_eq_true.mp (List.all_eq_true.mp lonely_lowerRuns run hrun) m hm
  rw [hback, hn] at hnot
  cases hnot

theorem lower_codes : ∀ n < 128, IsLower (Char.ofNat n).toLower ∧
    (Char.ofNat n).toLower.toNat < 128 ∧
    (CaseRun.covers ⟨0x41, 0x5A, 1, 32⟩ n = false → (Char.ofNat n).toLower = Char.ofNat n) := by
  decide

theorem lower_ascii {c : Char} (h : c.toNat < 128) : IsLower c.toLower ∧ c.toLower.toNat < 128 ∧
    (CaseRun.covers ⟨0x41, 0x5A, 1, 32⟩ c.toNat = false → c.toLower = c) := by
  have hcode := lower_codes c.toNat h
  rwa [Char.ofNat_toNat] at hcode

theorem isLower_of_uncovered {c : Char} (h : ∀ run ∈ lowerRuns, run.covers c.toNat = false)
    (hdotted : c.toNat ≠ 0x130) : IsLower c := by
  refine isLower_iff.mpr ⟨fun hsigma => ?_, hdotted, ?_⟩
  · have hcovered : lowerRuns.any (·.covers 0x3A3) = true := by decide +kernel
    obtain ⟨run, hrun, hcovers⟩ := List.any_eq_true.mp hcovered
    rw [← hsigma, h run hrun] at hcovers
    cases hcovers
  · rw [lowerChar]
    split
    · next hascii => exact (lower_ascii hascii).2.2 (h _ (List.mem_cons_self ..))
    · rw [shiftCase, List.find?_eq_none.mpr fun run hrun => by simp [h run hrun]]

theorem isLower_shift {run : CaseRun} (hrun : run ∈ lowerRuns) {n : Nat}
    (hn : run.covers n = true) : IsLower (Char.ofNat (Int.toNat (n + run.shift))) := by
  have hsafe := List.all_eq_true.mp isSafe_lowerRuns run hrun
  have hcode := toNat_ofNat (isValidChar_shift hsafe hn)
  have hapart := List.all_eq_true.mp isApart_lowerRuns run.image (List.mem_map_of_mem hrun)
  apply isLower_of_uncovered
  · intro other hother
    rw [hcode]
    exact covers_eq_false_of_isApart (List.all_eq_true.mp hapart other hother) hsafe hn
  · rw [hcode]
    exact shift_ne_of_lonely hrun hn (by decide)

theorem mem_lowerOf_cases {c d : Char} (h : d ∈ lowerOf c) :
    d ∈ ['i', Char.ofNat 0x307] ∨ (c.toNat < 128 ∧ d = c.toLower) ∨
    (∃ run ∈ lowerRuns, run.covers c.toNat = true ∧
      d = Char.ofNat (Int.toNat (c.toNat + run.shift))) ∨
    (d = c ∧ c.toNat ≠ 0x130 ∧ ∀ run ∈ lowerRuns, run.covers c.toNat = false) := by
  rw [lowerOf] at h
  split at h
  · exact .inl h
  · next hdotted =>
    rw [List.mem_singleton.mp h, lowerChar]
    split
    · next hascii => exact .inr (.inl ⟨hascii, rfl⟩)
    · rw [shiftCase]
      split
      · next run hfind =>
        have hcovers := List.find?_some hfind
        exact .inr (.inr (.inl ⟨run, List.mem_of_find?_eq_some hfind, hcovers, rfl⟩))
      · next hfind =>
        refine .inr (.inr (.inr ⟨rfl, hdotted, fun run hrun => ?_⟩))
        simpa using List.find?_eq_none.mp hfind run hrun

theorem isLower_of_mem_lowerOf {c d : Char} (h : d ∈ lowerOf c) : IsLower d := by
  rcases mem_lowerOf_cases h with
    hi | ⟨hascii, rfl⟩ | ⟨run, hrun, hcovers, rfl⟩ | ⟨rfl, hdotted, hnone⟩
  · have hdotted : IsLower 'i' ∧ IsLower (Char.ofNat 0x307) := by decide
    rcases List.mem_cons.mp hi with rfl | hi
    · exact hdotted.1
    · exact List.mem_singleton.mp hi ▸ hdotted.2
  · exact (lower_ascii hascii).1
  · exact isLower_shift hrun hcovers
  · exact isLower_of_uncovered hnone hdotted

theorem eq_of_mem_lowerOf {c d : Char} (h : d ∈ lowerOf c) (hd : d = 'ı' ∨ d = 'ſ') : d = c := by
  rcases mem_lowerOf_cases h with hi | ⟨hascii, rfl⟩ | ⟨run, hrun, hcovers, rfl⟩ | ⟨rfl, -, -⟩
  · have hdotted : 'ı' ∉ ['i', Char.ofNat 0x307] ∧ 'ſ' ∉ ['i', Char.ofNat 0x307] := by decide
    rcases hd with rfl | rfl
    · exact absurd hi hdotted.1
    · exact absurd hi hdotted.2
  · have hlower := (lower_ascii hascii).2.1
    rcases hd with hd | hd
    · exact absurd (hd ▸ hlower) (by decide)
    · exact absurd (hd ▸ hlower) (by decide)
  · have hsafe := List.all_eq_true.mp isSafe_lowerRuns run hrun
    have hcode := toNat_ofNat (isValidChar_shift hsafe hcovers)
    rcases hd with hd | hd
    · rw [hd] at hcode
      exact absurd hcode.symm (shift_ne_of_lonely hrun hcovers (by decide))
    · rw [hd] at hcode
      exact absurd hcode.symm (shift_ne_of_lonely hrun hcovers (by decide))
  · rfl

theorem exists_of_mem_lowerAfter {before s : List Char} {d : Char} (h : d ∈ lowerAfter before s) :
    (∃ c ∈ s, d ∈ lowerOf c) ∨ d = Char.ofNat 0x3C2 ∨ d = Char.ofNat 0x3C3 := by
  induction s generalizing before with
  | nil => cases h
  | cons c s ih =>
    rw [lowerAfter] at h
    rcases List.mem_append.mp h with hc | hs
    · split at hc
      · rw [List.mem_singleton.mp hc]
        split
        · exact .inr (.inl rfl)
        · exact .inr (.inr rfl)
      · exact .inl ⟨c, List.mem_cons_self .., hc⟩
    · rcases ih hs with ⟨c', hc', hd⟩ | hsigma
      · exact .inl ⟨c', List.mem_cons_of_mem c hc', hd⟩
      · exact .inr hsigma

theorem isLower_of_mem_toLower {s : List Char} {d : Char} (h : d ∈ toLower s) : IsLower d := by
  rcases exists_of_mem_lowerAfter h with ⟨c, -, hd⟩ | rfl | rfl
  · exact isLower_of_mem_lowerOf hd
  · decide +kernel
  · decide +kernel

theorem mem_lowerAfter_of_isLower {s : List Char} {c : Char} (hc : IsLower c) (h : c ∈ s)
    (before : List Char) : c ∈ lowerAfter before s := by
  induction s generalizing before with
  | nil => cases h
  | cons d s ih =>
    rw [lowerAfter]
    rcases List.mem_cons.mp h with rfl | h
    · rw [if_neg hc.1, hc.2]
      exact List.mem_append_left _ (List.mem_singleton.mpr rfl)
    · exact List.mem_append_right _ (ih h _)

/-- The dotless i and the long s are nobody's lower case but their own. -/
theorem mem_toLower_iff {s : List Char} {d : Char} (hd : d = 'ı' ∨ d = 'ſ') :
    d ∈ toLower s ↔ d ∈ s := by
  constructor
  · intro h
    rcases exists_of_mem_lowerAfter h with ⟨c, hc, hmem⟩ | rfl | rfl
    · exact eq_of_mem_lowerOf hmem hd ▸ hc
    · exact absurd hd (by decide)
    · exact absurd hd (by decide)
  · intro h
    have hlower : IsLower d := by rcases hd with rfl | rfl <;> decide +kernel
    exact mem_lowerAfter_of_isLower hlower h []

end LitNote.Text
