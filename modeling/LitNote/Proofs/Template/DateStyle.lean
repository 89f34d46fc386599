import LitNote.Proofs.Number.Decimal
import LitNote.Proofs.Template.Rendering
import LitNote.Proofs.Value.Depth
import Mathlib.Data.List.Forall2

/-!
Dates given by their parts, in the style that begins with the year.  Main statement: the text of a
day has the one form of the style exactly if its year has four digits, and between such years an
earlier day comes first.
-/

namespace LitNote

def Date.Before (a b : Date) : Prop :=
  a.year < b.year ∨ a.year = b.year ∧ (a.month < b.month ∨ a.month = b.month ∧ a.day < b.day)

instance (a b : Date) : Decidable (a.Before b) := by
  unfold Date.Before
  infer_instance

namespace Template

def partsValue (y m d : Value) : Value :=
  .record (Record.ofFields [("date-parts", .list [.list [y, m, d]])])

def Counts (v : Value) (n : Nat) : Prop := v.integer = .ok n ∨ v.integer = .ok 0 ∧ n = 1

inductive Denotes (date : Date) : Value → Prop
  | parts {y m d : Value} : y.integer = .ok date.year → Counts m date.month → Counts d date.day →
      Denotes date (partsValue y m d)

def Fits (p c : Char) : Prop := if p = '0' then Text.isAsciiDigit c = true else c = p

def HasIsoForm (s : Text) : Prop := List.Forall₂ Fits "0000-00-00T00:00:00.000Z".toList s

def dayStart (date : Date) : Text :=
  natText date.year ++ '-' :: (paddedNat 2 date.month ++
    ('-' :: (paddedNat 2 date.day ++ "T00:00:00.000Z".toList)))

theorem isoText?_atMidnight (date : Date) : isoText? (atMidnight date) = some (dayStart date) := by
  have htime : 'T' :: TimeOfDay.midnight.clock ++
      '.' :: paddedNat 3 (TimeOfDay.midnight.micro / 1000) ++ ['Z'] = "T00:00:00.000Z".toList := by
    decide
  rw [dayStart, ← htime]
  simp [isoText?, atMidnight, Moment.universal?]

section
variable {date : Date} {v : Value}

theorem Counts.exists {n : Nat} (h : Counts v n) (hn : 1 ≤ n) :
    ∃ i : Int, v.integer = .ok i ∧ (if i = 0 then 1 else i) = n := by
  rcases h with h | ⟨h, rfl⟩
  · refine ⟨n, h, if_neg ?_⟩
    omega
  · exact ⟨0, h, rfl⟩

theorem Denotes.momentOf? (h : Denotes date v) : momentOf? v = some (atMidnight date) := by
  rcases h with ⟨hy, hm, hd⟩
  have hvalid := date.valid
  obtain ⟨i, hi, hmonth⟩ := hm.exists hvalid.2.2.1
  obtain ⟨j, hj, hday⟩ := hd.exists hvalid.2.2.2.2.1
  have hnat : Date.ofInts? date.year date.month date.day = some date := by
    rw [Date.ofInts?, if_neg (by omega)]
    exact dif_pos hvalid
  have hparts {y m d : Value} (hy : y.integer = .ok date.year) (hi : m.integer = .ok i)
      (hj : d.integer = .ok j) : ofDateParts? (.list [.list [y, m, d]]) = some date := by
    simp [ofDateParts?, datePartsOf?, firstOf?, hy, hi, hj, Except.toOption, hmonth, hday, hnat]
  exact congrArg (Option.map atMidnight) (hparts hy hi hj)

theorem depth_of_integer {i : Int} (h : v.integer = .ok i) : v.depth = 0 := by
  cases v with
  | list | tuple | record | set | cyclic => cases h
  | _ => exact Value.depth_of_isScalar rfl

theorem Counts.depth_eq {n : Nat} (h : Counts v n) : v.depth = 0 := by
  rcases h with h | ⟨h, -⟩
  · exact depth_of_integer h
  · exact depth_of_integer h

theorem Denotes.depth_eq (h : Denotes date v) : v.depth = 3 := by
  rcases h with ⟨hy, hm, hd⟩
  simp [partsValue, Record.ofFields, Value.ofString, Value.depth, Value.depthItems,
    Value.depthEntries, depth_of_integer hy, hm.depth_eq, hd.depth_eq]

theorem Denotes.exists_plain (h : Denotes date v) : ∃ s, v.plain = .ok s := by
  have hroom : v.depth ≤ Stack.room := h.depth_eq ▸ Stack.le_room (by decide)
  rcases h with ⟨-, -, -⟩
  rw [partsValue, Value.plain, Json.exists_writeOr_iff]
  intro hdeep
  exact Json.failsOnly_write hroom _ hdeep rfl

theorem apply_iso_of_denotes (h : Denotes date v) :
    Formatter.apply "date".toList v ["iso".toList] = pure (dayStart date) := by
  obtain ⟨s, hs⟩ := h.exists_plain
  have hdated : Formatter.dated v s ["iso".toList] = dayStart date := by
    rw [Formatter.dated, h.momentOf?]
    show ((isoText? (atMidnight date)).getD s) = _
    rw [isoText?_atMidnight]
    rfl
  refine Formatter.apply_of_draw (f := .date) (by decide) hs ?_
  show Drawing.failing (.ok (Formatter.dated v s ["iso".toList])) = _
  rw [hdated]
  rfl

end

theorem month_lt (date : Date) : date.month < 10 ^ 2 := by
  have := date.valid
  omega

theorem day_lt (date : Date) : date.day < 10 ^ 2 := by
  have hvalid := date.valid
  have hlength : monthLength date.year date.month ≤ 31 := by
    unfold monthLength
    split
    · split <;> decide
    · split <;> decide
  omega

theorem length_dayStart (date : Date) :
    (dayStart date).length = (natText date.year).length + 20 := by
  simp [dayStart, length_paddedNat (by decide : 0 < 2) (month_lt date),
    length_paddedNat (by decide : 0 < 2) (day_lt date)]

theorem length_year_iff (date : Date) : (natText date.year).length = 4 ↔ 1000 ≤ date.year := by
  have hvalid := date.valid
  have hfour : (natText date.year).length ≤ 4 :=
    (Nat.length_toDigits_le_iff (by decide) (by decide)).mpr (by omega)
  have hthree : (natText date.year).length ≤ 3 ↔ date.year < 10 ^ 3 :=
    Nat.length_toDigits_le_iff (by decide) (by decide)
  omega

theorem fits_self (c : Char) : Fits c c := by
  unfold Fits
  split
  · next h =>
    rw [h]
    decide
  · rfl

theorem forall₂_fits_digits {s : Text} (h : AreDigits s) :
    List.Forall₂ Fits (List.replicate s.length '0') s := by
  induction s with
  | nil => exact .nil
  | cons c s ih =>
    exact .cons (h c (List.mem_cons_self ..)) (ih fun d hd => h d (List.mem_cons_of_mem c hd))

theorem hasIsoForm_iff (date : Date) : HasIsoForm (dayStart date) ↔ 1000 ≤ date.year := by
  rw [← length_year_iff]
  constructor
  · intro h
    have hlength := h.length_eq
    rw [length_dayStart] at hlength
    exact Nat.add_right_cancel hlength.symm
  · intro hlength
    have hyear := forall₂_fits_digits (areDigits_natText date.year)
    have hmonth : List.Forall₂ Fits _ (paddedNat 2 date.month) :=
      forall₂_fits_digits fun _ => isAsciiDigit_of_mem_paddedNat
    have hday : List.Forall₂ Fits _ (paddedNat 2 date.day) :=
      forall₂_fits_digits fun _ => isAsciiDigit_of_mem_paddedNat
    rw [hlength] at hyear
    rw [length_paddedNat (by decide) (month_lt date)] at hmonth
    rw [length_paddedNat (by decide) (day_lt date)] at hday
    have htime := List.forall₂_same.mpr fun c (_ : c ∈ "T00:00:00.000Z".toList) => fits_self c
    have hrest := List.rel_append hday htime
    have hrest := List.rel_append hmonth (.cons (fits_self '-') hrest)
    exact List.rel_append hyear (.cons (fits_self '-') hrest)

theorem dayStart_lt_iff (a b : Date) : dayStart a < dayStart b ↔
    natText a.year < natText b.year ∨
      a.year = b.year ∧ (a.month < b.month ∨ a.month = b.month ∧ a.day < b.day) := by
  have hmark : ∀ d, Text.isAsciiDigit d = true → '-' < d := by
    intro d hd
    simp only [Text.isAsciiDigit, Bool.and_eq_true, decide_eq_true_eq] at hd
    rw [lt_iff_toNat]
    show 45 < d.toNat
    omega
  have hyear : natText a.year = natText b.year ↔ a.year = b.year := by
    refine ⟨fun h => ?_, fun h => by rw [h]⟩
    rw [← ofDigits_natText a.year, h, ofDigits_natText]
  have hmonths : (paddedNat 2 a.month).length = (paddedNat 2 b.month).length := by
    rw [length_paddedNat (by decide) (month_lt a), length_paddedNat (by decide) (month_lt b)]
  have hdays : (paddedNat 2 a.day).length = (paddedNat 2 b.day).length := by
    rw [length_paddedNat (by decide) (day_lt a), length_paddedNat (by decide) (day_lt b)]
  have hdash : ¬ '-' < '-' := Char.lt_irrefl '-'
  have hend (s : Text) : ¬s < s := List.lt_irrefl s
  unfold dayStart
  rw [digits_lt_iff (areDigits_natText _) (areDigits_natText _) hmark, hyear,
    append_lt_append_iff hmonths, paddedNat_lt_iff (by decide) (month_lt a) (month_lt b),
    paddedNat_inj, List.cons_lt_cons_iff, append_lt_append_iff hdays,
    paddedNat_lt_iff (by decide) (day_lt a) (day_lt b)]
  simp only [hdash, hend, and_false, or_false, false_or, true_and]

/-- Dates in this style.  The text of a day has its one form exactly if the year has four digits,
and is shorter otherwise.  Days are in the order of their texts as the digits of their years are, so
that between years of four digits an earlier day comes first. -/
theorem apply_iso_order {v w : Value} {a b : Date} (hv : Denotes a v) (hw : Denotes b w) :
    ∃ s t, Formatter.apply "date".toList v ["iso".toList] = pure s ∧
      Formatter.apply "date".toList w ["iso".toList] = pure t ∧
      (HasIsoForm s ↔ 1000 ≤ a.year) ∧ s.length = (natText a.year).length + 20 ∧
      (s < t ↔ natText a.year < natText b.year ∨
        a.year = b.year ∧ (a.month < b.month ∨ a.month = b.month ∧ a.day < b.day)) ∧
      (1000 ≤ a.year → 1000 ≤ b.year → (s < t ↔ a.Before b)) := by
  refine ⟨dayStart a, dayStart b, apply_iso_of_denotes hv, apply_iso_of_denotes hw,
    hasIsoForm_iff a, length_dayStart a, dayStart_lt_iff a b, fun ha hb => ?_⟩
  have hlength : (natText a.year).length = (natText b.year).length := by
    rw [(length_year_iff a).mpr ha, (length_year_iff b).mpr hb]
  rw [dayStart_lt_iff, natText_lt_iff hlength, Date.Before]

def newYear1000 : Date := ⟨1000, 1, 1, by decide⟩

def leapDay : Date := ⟨2024, 2, 29, by decide⟩

theorem denotes_newYear1000 : Denotes newYear1000 (partsValue (.int 1000) (.int 0) (.int 0)) :=
  .parts rfl (.inr ⟨rfl, rfl⟩) (.inr ⟨rfl, rfl⟩)

theorem denotes_leapDay : Denotes leapDay (partsValue (.int 2024) (.text ['2']) (.int 29)) :=
  .parts rfl (.inl rfl) (.inl rfl)

theorem apply_iso_order_leapDay :
    Denotes newYear1000 (partsValue (.int 1000) (.int 0) (.int 0)) ∧
      Denotes leapDay (partsValue (.int 2024) (.text ['2']) (.int 29)) ∧
      ∃ s t, Formatter.apply "date".toList (partsValue (.int 1000) (.int 0) (.int 0))
          ["iso".toList] = pure s ∧
        Formatter.apply "date".toList (partsValue (.int 2024) (.text ['2']) (.int 29))
          ["iso".toList] = pure t ∧
        HasIsoForm s ∧ s < t := by
  refine ⟨denotes_newYear1000, denotes_leapDay, ?_⟩
  obtain ⟨s, t, hs, ht, hform, -, -, horder⟩ :=
    apply_iso_order denotes_newYear1000 denotes_leapDay
  exact ⟨s, t, hs, ht, hform.mpr (by decide),
    (horder (by decide) (by decide)).mpr (.inl (by decide))⟩

def newYear999 : Date := ⟨999, 1, 1, by decide⟩

theorem apply_iso_year999 :
    Denotes newYear999 (partsValue (.int 999) (.int 1) (.int 1)) ∧
      Denotes newYear1000 (partsValue (.int 1000) (.int 1) (.int 1)) ∧
      newYear999.Before newYear1000 ∧
      ∃ s t, Formatter.apply "date".toList (partsValue (.int 999) (.int 1) (.int 1))
          ["iso".toList] = pure s ∧
        Formatter.apply "date".toList (partsValue (.int 1000) (.int 1) (.int 1))
          ["iso".toList] = pure t ∧
        s = "999-01-01T00:00:00.000Z".toList ∧ s.length ≠ 24 ∧ ¬HasIsoForm s ∧ ¬s < t := by
  have ha : Denotes newYear999 (partsValue (.int 999) (.int 1) (.int 1)) :=
    .parts rfl (.inl rfl) (.inl rfl)
  have hb : Denotes newYear1000 (partsValue (.int 1000) (.int 1) (.int 1)) :=
    .parts rfl (.inl rfl) (.inl rfl)
  refine ⟨ha, hb, by decide, dayStart newYear999, dayStart newYear1000, apply_iso_of_denotes ha,
    apply_iso_of_denotes hb, by decide, by decide, ?_, by decide⟩
  rw [hasIsoForm_iff]
  decide

end Template

end LitNote
