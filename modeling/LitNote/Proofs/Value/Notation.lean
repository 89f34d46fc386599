import LitNote.Proofs.Number.Decimal
import LitNote.Proofs.Value.Depth
import LitNote.Proofs.Value.Record
import LitNote.Value.Notation
import Mathlib.Data.List.TakeWhile

/-!
The notation of values.  Main statements: there is one unless some number is too long or there is no
room for the nesting, and without long numbers the run of digits that it starts with is not long
either.
-/

namespace LitNote

def startDigits (s : Text) : Text := (Integer.sign (Text.trimStart s)).2.takeWhile Text.isAsciiDigit

section
variable {u v : Text} {c : Char}

theorem takeWhile_digits (hu : ∀ d ∈ u, Text.isAsciiDigit d = true)
    (hv : v.head?.any Text.isAsciiDigit = false) :
    (u ++ v).takeWhile Text.isAsciiDigit = u := by
  rw [List.takeWhile_append_of_pos hu]
  cases v with
  | nil => exact List.append_nil u
  | cons d v =>
    have hd : Text.isAsciiDigit d = false := hv
    rw [List.takeWhile_cons_of_neg (ne_true_of_eq_false hd), List.append_nil]

theorem Integer.sign_trimStart_cons (hblank : Text.isBlank c = false) (hminus : c ≠ '-')
    (hplus : c ≠ '+') (v : Text) :
    Integer.sign (Text.trimStart (c :: v)) = (false, c :: v) := by
  have htrim : Text.trimStart (c :: v) = c :: v :=
    List.dropWhile_cons_of_neg (ne_true_of_eq_false hblank)
  rw [htrim, Integer.sign.eq_def]
  split
  · next h => exact absurd (List.cons.inj h).1 hminus
  · next h => exact absurd (List.cons.inj h).1 hplus
  · rfl

theorem Integer.sign_trimStart_digit (h : Text.isAsciiDigit c = true) (v : Text) :
    Integer.sign (Text.trimStart (c :: v)) = (false, c :: v) := by
  refine sign_trimStart_cons (Text.isBlank_of_isAsciiDigit h) ?_ ?_ v <;>
  · rintro rfl
    exact absurd h (by decide)

theorem startDigits_append (hu : ∀ d ∈ u, Text.isAsciiDigit d = true) (hne : u ≠ [])
    (hv : v.head?.any Text.isAsciiDigit = false) : startDigits (u ++ v) = u := by
  obtain ⟨d, u, rfl⟩ := List.exists_cons_of_ne_nil hne
  rw [startDigits, List.cons_append, Integer.sign_trimStart_digit (hu d (List.mem_cons_self ..)),
    ← List.cons_append, takeWhile_digits hu hv]

theorem startDigits_minus (hu : ∀ d ∈ u, Text.isAsciiDigit d = true)
    (hv : v.head?.any Text.isAsciiDigit = false) :
    startDigits ('-' :: (u ++ v)) = u :=
  takeWhile_digits hu hv

theorem startDigits_cons (hblank : Text.isBlank c = false) (hminus : c ≠ '-') (hplus : c ≠ '+')
    (hdigit : Text.isAsciiDigit c = false) (v : Text) : startDigits (c :: v) = [] := by
  rw [startDigits, Integer.sign_trimStart_cons hblank hminus hplus]
  exact List.takeWhile_cons_of_neg (ne_true_of_eq_false hdigit)

end

theorem startDigits_integer (n : Int) : startDigits (Integer.text n) = natText n.natAbs := by
  have hdigits : ∀ d ∈ natText n.natAbs, Text.isAsciiDigit d = true :=
    fun d => isAsciiDigit_of_mem_natText
  have hplus := startDigits_append hdigits (natText_ne_nil _) (v := []) rfl
  have hminus := startDigits_minus hdigits (v := []) rfl
  rw [List.append_nil] at hplus hminus
  rw [Integer.text]
  split
  · exact hminus
  · exact hplus

namespace Date

theorem startDigits_text (d : Date) (v : Text) :
    startDigits (d.text ++ v) = paddedNat 4 d.year ∧ (paddedNat 4 d.year).length = 4 := by
  have hne : paddedNat 4 d.year ≠ [] := by
    rw [paddedNat]
    exact List.append_ne_nil_of_right_ne_nil _ (natText_ne_nil _)
  have hlength : (natText d.year).length ≤ 4 :=
    (Nat.length_toDigits_le_iff (by decide) (by decide)).mpr (Nat.lt_succ_of_le d.valid.2.1)
  constructor
  · have htext : d.text ++ v = paddedNat 4 d.year ++
        '-' :: (paddedNat 2 d.month ++ '-' :: paddedNat 2 d.day ++ v) := by
      simp only [text, List.append_assoc, List.cons_append]
    rw [htext]
    exact startDigits_append (fun c => isAsciiDigit_of_mem_paddedNat) hne rfl
  · rw [paddedNat, List.length_append, List.length_replicate]
    omega

end Date

namespace Binary64

def StartsShort (s : Text) : Prop := ∃ u v, s = u ++ v ∧ u ≠ [] ∧
  (∀ c ∈ u, Text.isAsciiDigit c = true) ∧ v.head?.any Text.isAsciiDigit = false ∧ u.length ≤ 16

theorem startsShort_decimalText (digits : Nat) (unit : Int) :
    StartsShort (decimalText digits unit) := by
  rw [decimalText]
  generalize dropZeros 20 digits unit = shortened
  obtain ⟨digits, unit⟩ := shortened
  dsimp only
  have hdigits : ∀ c ∈ natText digits, Text.isAsciiDigit c = true :=
    fun c => isAsciiDigit_of_mem_natText
  have hne := natText_ne_nil digits
  have hpos : 0 < (natText digits).length := List.length_pos_iff.mpr hne
  generalize natText digits = ds at hdigits hne hpos
  split
  · next htop =>
    split
    · refine ⟨_, _, rfl, List.append_ne_nil_of_left_ne_nil hne _, ?_, rfl, ?_⟩
      · intro c hc
        rcases List.mem_append.mp hc with hc | hc
        · exact hdigits c hc
        · rw [List.eq_of_mem_replicate hc]
          decide
      · rw [List.length_append, List.length_replicate]
        omega
    · split
      · refine ⟨_, _, rfl, ?_, fun c hc => hdigits c (List.mem_of_mem_take hc), rfl, ?_⟩
        · rw [← List.length_pos_iff, List.length_take]
          omega
        · rw [List.length_take]
          omega
      · exact ⟨['0'], _, rfl, List.cons_ne_nil _ _, List.forall_mem_singleton.mpr (by decide),
          rfl, by decide⟩
  · obtain ⟨d, more, rfl⟩ := List.exists_cons_of_ne_nil hne
    have hd : ∀ c ∈ [d], Text.isAsciiDigit c = true :=
      List.forall_mem_singleton.mpr (hdigits d (List.mem_cons_self ..))
    cases more with
    | nil => exact ⟨[d], _, rfl, List.cons_ne_nil _ _, hd, rfl, (show 1 ≤ 16 by decide)⟩
    | cons e more => exact ⟨[d], _, rfl, List.cons_ne_nil _ _, hd, rfl, (show 1 ≤ 16 by decide)⟩

theorem startDigits_text (x : Binary64) : (startDigits x.text).length ≤ 16 := by
  cases x with
  | nan => decide
  | infinite negative => cases negative <;> decide
  | finite negative m e =>
    rw [text]
    split
    · cases negative <;> decide
    · generalize shortestDigits m e = shortest
      obtain ⟨digits, unit⟩ := shortest
      obtain ⟨u, v, heq, hne, hdigits, hv, hlength⟩ := startsShort_decimalText digits unit
      dsimp only
      rw [heq]
      cases negative with
      | false =>
        rw [signText, if_neg Bool.false_ne_true, List.nil_append,
          startDigits_append hdigits hne hv]
        exact hlength
      | true =>
        rw [signText, if_pos rfl, List.singleton_append, startDigits_minus hdigits hv]
        exact hlength

end Binary64

def HasShortRuns (s : Text) : Prop :=
  ∀ ds, ds <:+: s → (∀ c ∈ ds, Text.isAsciiDigit c = true) → ds.length ≤ Integer.maxDigits

theorem Integer.sign_suffix (s : Text) : (Integer.sign s).2 <:+ s := by
  rw [Integer.sign.eq_def]
  split
  · exact List.suffix_cons _ _
  · exact List.suffix_cons _ _
  · exact List.suffix_refl s

theorem startDigits_isInfix (s : Text) : startDigits s <:+: s := by
  have hsigned :=
    (Integer.sign_suffix (Text.trimStart s)).trans (List.dropWhile_suffix Text.isBlank)
  exact (List.takeWhile_prefix _).isInfix.trans hsigned.isInfix

theorem HasShortRuns.startDigits_le {s : Text} (h : HasShortRuns s) :
    (startDigits s).length ≤ Integer.maxDigits :=
  h _ (startDigits_isInfix s) fun _ hc => List.mem_takeWhile_imp hc

theorem HasShortRuns.of_length {s : Text} (h : s.length ≤ Integer.maxDigits) : HasShortRuns s :=
  fun _ hds _ => hds.length_le.trans h

namespace Value

/-- Neither a number in a value nor a run of digits in a text is too long, however deep it lies. -/
inductive HasShortNumbers : Value → Prop
  | absent : HasShortNumbers .absent
  | null : HasShortNumbers .null
  | bool (b : Bool) : HasShortNumbers (.bool b)
  | int {n : Int} : Integer.tooLong n = false → HasShortNumbers (.int n)
  | float (x : Binary64) : HasShortNumbers (.float x)
  | text {s : Text} : HasShortRuns s → HasShortNumbers (.text s)
  | list {xs : List Value} : (∀ x ∈ xs, HasShortNumbers x) → HasShortNumbers (.list xs)
  | tuple {xs : List Value} : (∀ x ∈ xs, HasShortNumbers x) → HasShortNumbers (.tuple xs)
  | record {es : Record} : (∀ e ∈ es, HasShortNumbers e.1) → (∀ e ∈ es, HasShortNumbers e.2) →
      HasShortNumbers (.record es)
  | moment (m : Moment) : HasShortNumbers (.moment m)
  | date (d : Date) : HasShortNumbers (.date d)
  | bytes (octets : List UInt8) : HasShortNumbers (.bytes octets)
  | set {xs : List Value} : (∀ x ∈ xs, HasShortNumbers x) → HasShortNumbers (.set xs)
  | cyclic {s : Text} {v : Value} : HasShortRuns s → HasShortNumbers v →
      HasShortNumbers (.cyclic (.ok s) v)
  | cyclicDeep {v : Value} : HasShortNumbers v → HasShortNumbers (.cyclic (.error .tooDeep) v)

theorem HasShortNumbers.field {r : Record} (h : HasShortNumbers (.record r)) (key : String) :
    HasShortNumbers (r.field key) := by
  cases h with
  | record _ hvalues =>
    rw [Record.field, Record.get]
    cases hget : r.get? key.toList with
    | none => exact .null
    | some v => exact hvalues _ (Record.mem_of_get? hget)

theorem HasShortNumbers.ofString {s : String} (h : s.toList.length ≤ Integer.maxDigits) :
    HasShortNumbers (.ofString s) :=
  .text (.of_length h)

theorem HasShortNumbers.ofFields {fields : List (String × Value)}
    (h : ∀ f ∈ fields, f.1.toList.length ≤ Integer.maxDigits ∧ HasShortNumbers f.2) :
    HasShortNumbers (.record (Record.ofFields fields)) := by
  refine .record ?_ ?_
  · exact List.forall_mem_map.mpr fun f hf => .ofString (h f hf).1
  · exact List.forall_mem_map.mpr fun f hf => (h f hf).2

inductive HoldsLong : Value → Prop
  | int {n : Int} : Integer.tooLong n = true → HoldsLong (.int n)
  | list {xs : List Value} {x : Value} : x ∈ xs → HoldsLong x → HoldsLong (.list xs)
  | tuple {xs : List Value} {x : Value} : x ∈ xs → HoldsLong x → HoldsLong (.tuple xs)
  | set {xs : List Value} {x : Value} : x ∈ xs → HoldsLong x → HoldsLong (.set xs)
  | key {es : Record} {e : Value × Value} : e ∈ es → HoldsLong e.1 → HoldsLong (.record es)
  | value {es : Record} {e : Value × Value} : e ∈ es → HoldsLong e.2 → HoldsLong (.record es)
  | cyclic {e : Failure} {v : Value} : e ≠ .tooDeep → HoldsLong (.cyclic (.error e) v)

section
variable {n : Int} {xs : List Value} {es : Record} {e : Failure} {v : Value}

theorem holdsLong_int_iff : HoldsLong (.int n) ↔ Integer.tooLong n = true := by
  constructor
  · rintro ⟨h⟩
    exact h
  · exact .int

theorem holdsLong_iff (hv : v.isContainer = true) :
    HoldsLong v ↔ ∃ x ∈ v.members, HoldsLong x := by
  constructor
  · intro h
    cases h with
    | list hx h | tuple hx h | set hx h => exact ⟨_, hx, h⟩
    | key he h => exact ⟨_, List.mem_flatMap.mpr ⟨_, he, List.mem_cons_self ..⟩, h⟩
    | value he h => exact ⟨_, List.mem_flatMap.mpr ⟨_, he, by simp⟩, h⟩
    | _ => cases hv
  · rintro ⟨x, hx, h⟩
    cases v with
    | list xs => exact .list hx h
    | tuple xs => exact .tuple hx h
    | set xs => exact .set hx h
    | record es =>
      obtain ⟨e, he, hx⟩ := List.mem_flatMap.mp hx
      obtain rfl | hx := List.mem_cons.mp hx
      · exact .key he h
      · obtain rfl := List.mem_singleton.mp hx
        exact .value he h
    | _ => cases hv

theorem holdsLong_cyclic_iff : HoldsLong (.cyclic (.error e) v) ↔ e ≠ .tooDeep := by
  constructor
  · rintro (_ | _ | _ | _ | _ | _ | h)
    exact h
  · exact .cyclic

theorem HasShortNumbers.not_holdsLong (h : HasShortNumbers v) : ¬HoldsLong v := by
  have hnone {v : Value} (hv : v.isContainer = true) (ih : ∀ x ∈ v.members, ¬HoldsLong x) :
      ¬HoldsLong v := by
    rw [holdsLong_iff hv]
    rintro ⟨x, hx, hlong⟩
    exact ih x hx hlong
  induction h with
  | int hn =>
    rw [holdsLong_int_iff, hn]
    exact Bool.false_ne_true
  | list _ ih => exact hnone rfl ih
  | tuple _ ih => exact hnone rfl ih
  | set _ ih => exact hnone rfl ih
  | record _ _ ihkeys ihvalues =>
    exact hnone rfl (forall_members_record.mpr fun e he => ⟨ihkeys e he, ihvalues e he⟩)
  | cyclicDeep v => exact fun hlong => holdsLong_cyclic_iff.mp hlong rfl
  | _ =>
    intro hlong
    cases hlong

end

def notationMarks : Text := "MNTFb[(\x7bs".toList

theorem startDigits_mark {c : Char} (hc : c ∈ notationMarks) (s : Text) :
    startDigits (c :: s) = [] := by
  have hmarks : (notationMarks.all fun c => Text.isBlank c = false ∧ c ≠ '-' ∧ c ≠ '+' ∧
      Text.isAsciiDigit c = false) = true := by decide
  obtain ⟨hblank, hminus, hplus, hdigit⟩ := of_decide_eq_true (List.all_eq_true.mp hmarks c hc)
  exact startDigits_cons hblank hminus hplus hdigit s

theorem notatedItems_eq (xs : List Value) (room : Nat) :
    notatedItems xs room = (xs.mapM fun x => notated x room).map (Text.join [',', ' ']) := by
  refine Failure.eq_map_join (notatedItems · room) (notated · room) _ (notatedItems.eq_1 _)
    (fun _ => notatedItems.eq_2 ..) (fun x y rest => ?_) xs
  rw [notatedItems]
  · rfl
  · exact List.cons_ne_nil y rest

def notatedEntry (e : Value × Value) (room : Nat) : Except Failure Text := do
  return (← e.1.notated room) ++ ':' :: ' ' :: (← e.2.notated room)

/-- Keys and values that stand one after another, put together. -/
def paired : List Text → List Text
  | k :: v :: rest => (k ++ ':' :: ' ' :: v) :: paired rest
  | _ => []

theorem mapM_notatedEntry (es : Record) (room : Nat) :
    (es.mapM fun e => notatedEntry e room) =
      ((Value.record es).members.mapM fun x => notated x room).map paired := by
  induction es with
  | nil => rfl
  | cons e es ih =>
    have hmembers : (Value.record (e :: es)).members = e.1 :: e.2 :: (Value.record es).members :=
      rfl
    rw [hmembers, List.mapM_cons, List.mapM_cons, List.mapM_cons, ih, notatedEntry]
    cases e.1.notated room with
    | error _ => rfl
    | ok s =>
      cases e.2.notated room with
      | error _ => rfl
      | ok t => cases (Value.record es).members.mapM fun x => notated x room <;> rfl

theorem notatedEntries_eq (es : Record) (room : Nat) :
    notatedEntries es room = ((Value.record es).members.mapM fun x => notated x room).map
      (Text.join [',', ' '] ∘ paired) := by
  have hentries : notatedEntries es room =
      (es.mapM fun e => notatedEntry e room).map (Text.join [',', ' ']) := by
    refine Failure.eq_map_join (notatedEntries · room) (notatedEntry · room) _
      (notatedEntries.eq_1 _) (fun _ => notatedEntries.eq_2 ..) (fun e f rest => ?_) es
    rw [notatedEntries, notatedEntry]
    · cases e.1.notated room with
      | error _ => rfl
      | ok s =>
        cases e.2.notated room with
        | error _ => rfl
        | ok t => simp [bind, Except.bind, pure, Except.pure]
    · exact List.cons_ne_nil f rest
  rw [hentries, mapM_notatedEntry, Failure.map_map]

/-- The notation of a container is made of those of its members, behind a mark. -/
def Encloses (v : Value) : Prop :=
  ∃ f : List Text → Text, (∀ ts, startDigits (f ts) = []) ∧
    ∀ room, v.notated room =
      Stack.descend 1 room fun room => (v.members.mapM fun x => notated x room).map f

theorem encloses_items {v : Value} {xs : List Value} (hmembers : v.members = xs)
    (before : Char) (after : Text) (hbefore : before ∈ notationMarks)
    (h : ∀ room, v.notated room = Stack.descend 1 room fun room =>
      (notatedItems xs room).map fun t => before :: t ++ after) : v.Encloses := by
  subst hmembers
  refine ⟨fun ts => before :: Text.join [',', ' '] ts ++ after,
    fun ts => startDigits_mark hbefore _, fun room => ?_⟩
  rw [h]
  simp only [notatedItems_eq, Failure.map_map]
  rfl

theorem encloses_of_isContainer {v : Value} (hv : v.isContainer = true) : v.Encloses := by
  cases v with
  | list xs =>
    refine encloses_items rfl '[' [']'] (by decide) fun room => ?_
    rw [notated]
    rfl
  | tuple xs =>
    match xs with
    | [x] =>
      refine encloses_items rfl '(' [',', ')'] (by decide) fun room => ?_
      rw [notated]
      rfl
    | [] =>
      refine encloses_items rfl '(' [')'] (by decide) fun room => ?_
      rw [notated]
      · rfl
      · exact fun _ h => nomatch h
    | x :: y :: xs =>
      refine encloses_items rfl '(' [')'] (by decide) fun room => ?_
      rw [notated]
      · rfl
      · exact fun _ h => nomatch h
  | record es =>
    refine ⟨fun ts => '{' :: Text.join [',', ' '] (paired ts) ++ ['}'],
      fun ts => startDigits_mark (by decide) _, fun room => ?_⟩
    rw [notated]
    simp only [notatedEntries_eq]
    exact congrArg (Stack.descend 1 room) (funext fun _ => Failure.map_map _ _ _)
  | set xs =>
    cases xs with
    | nil =>
      refine ⟨fun _ => "set()".toList, fun ts => startDigits_mark (by decide) _, fun room => ?_⟩
      rw [notated]
      rfl
    | cons x xs =>
      refine encloses_items rfl '{' ['}'] (by decide) fun room => ?_
      rw [notated]
      · rfl
      · exact List.cons_ne_nil x xs
  | _ => cases hv

section
variable {v : Value} (hv : v.isContainer = true) {room : Nat}
include hv

theorem exists_notated_of_isContainer : (∃ s, v.notated room = .ok s) ↔
    1 ≤ room ∧ ∀ x ∈ v.members, ∃ s, x.notated (room - 1) = .ok s := by
  obtain ⟨f, -, hf⟩ := encloses_of_isContainer hv
  rw [hf, Stack.exists_descend_iff, Failure.exists_mapM_iff]

theorem failsOnly_notated_of_isContainer {P : Failure → Prop} (hdeep : room < 1 → P .tooDeep)
    (hmembers : ∀ x ∈ v.members, Failure.FailsOnly P (x.notated (room - 1))) :
    Failure.FailsOnly P (v.notated room) := by
  obtain ⟨f, -, hf⟩ := encloses_of_isContainer hv
  rw [hf]
  exact Stack.failsOnly_descend hdeep fun _ => (Failure.FailsOnly.mapM_of_mem hmembers).map

theorem startDigits_notated_of_isContainer {s : Text} (hs : v.notated room = .ok s) :
    startDigits s = [] := by
  obtain ⟨f, hmark, hf⟩ := encloses_of_isContainer hv
  rw [hf] at hs
  obtain ⟨-, hs⟩ := Stack.descend_eq_ok_iff.mp hs
  obtain ⟨ts, -, rfl⟩ := Failure.map_eq_ok_iff.mp hs
  exact hmark ts

end

theorem exists_write_iff {n : Int} :
    (∃ s, Integer.write n = .ok s) ↔ ¬Integer.tooLong n = true := by
  rw [Integer.write]
  split
  · next h =>
    refine ⟨?_, fun hn => absurd h hn⟩
    rintro ⟨s, hs⟩
    cases hs
  · next h => exact ⟨fun _ => h, fun _ => ⟨_, rfl⟩⟩

/-- A value has a notation exactly if there is room for it and no number in it is too long. -/
theorem exists_notated_iff {v : Value} {room : Nat} (hroom : room ≤ Stack.room) :
    (∃ s, v.notated room = .ok s) ↔ v.depth ≤ room ∧ ¬HoldsLong v := by
  induction v using Value.memberInduction generalizing room with
  | container v hv ih =>
    have ih := forall₂_congr fun x hx => ih x hx ((room.sub_le 1).trans hroom)
    rw [exists_notated_of_isContainer hv, ih, depth_le_iff hv, holdsLong_iff hv]
    simp only [forall_and, and_assoc, not_exists, not_and]
  | other v hv =>
    cases v with
    | list | tuple | record | set => cases hv
    | int n =>
      rw [notated, holdsLong_int_iff, depth_of_isScalar rfl, and_iff_right (Nat.zero_le room)]
      exact exists_write_iff
    | cyclic display v =>
      rw [notated.eq_def]
      cases display with
      | ok s =>
        refine ⟨fun _ => ⟨Nat.zero_le room, fun hlong => ?_⟩, fun _ => ⟨s, rfl⟩⟩
        cases hlong
      | error e =>
        rw [holdsLong_cyclic_iff]
        by_cases he : e = .tooDeep
        · subst he
          simp [depth]
          omega
        · simp [he]
    | _ =>
      rw [depth_of_isScalar rfl, and_iff_right (Nat.zero_le room)]
      refine ⟨fun _ hlong => ?_, fun _ => ⟨_, rfl⟩⟩
      cases hlong

/-- The failures of the notation of a value for which there is so much room. -/
def FailsBy (room : Nat) (v : Value) (e : Failure) : Prop :=
  e = .tooManyDigits ∧ HoldsLong v ∨ e = .tooDeep ∧ room < v.depth

theorem FailsBy.member {room : Nat} {v x : Value} {e : Failure} (hv : v.isContainer = true)
    (hx : x ∈ v.members) (h : FailsBy (room - 1) x e) : FailsBy room v e := by
  obtain ⟨rfl, hlong⟩ | ⟨rfl, hlt⟩ := h
  · exact .inl ⟨rfl, (holdsLong_iff hv).mpr ⟨x, hx, hlong⟩⟩
  · have := depth_lt_of_mem hv hx
    exact .inr ⟨rfl, by omega⟩

/-- Only long numbers and a lack of room make a notation fail. -/
theorem failsOnly_notated {v : Value} {room : Nat} (hroom : room ≤ Stack.room) :
    Failure.FailsOnly (FailsBy room v) (v.notated room) := by
  induction v using Value.memberInduction generalizing room with
  | container v hv ih =>
    refine failsOnly_notated_of_isContainer hv (fun hlt => .inr ⟨rfl, ?_⟩) fun x hx =>
      (ih x hx ((room.sub_le 1).trans hroom)).imp fun _ => .member hv hx
    exact hlt.trans_le (depth_pos hv)
  | other v hv =>
    cases v with
    | list | tuple | record | set => cases hv
    | int n =>
      rw [notated, Integer.write]
      split
      · next h => exact .error (.inl ⟨rfl, .int h⟩)
      · exact .ok _
    | cyclic display v =>
      rw [notated.eq_def]
      cases display with
      | ok s => exact .ok s
      | error e =>
        by_cases he : e = .tooDeep
        · subst he
          exact .error (.inr ⟨rfl, by rw [depth]; omega⟩)
        · simpa [he] using .error (.inl ⟨rfl, .cyclic he⟩)
    | _ => exact .ok _

theorem exists_asText_iff {v : Value} :
    (∃ s, v.asText = .ok s) ↔ v.depth ≤ Stack.room ∧ ¬HoldsLong v := by
  cases v with
  | text | moment | date =>
    refine ⟨fun _ => ⟨Nat.zero_le _, fun hlong => ?_⟩, fun _ => ⟨_, rfl⟩⟩
    cases hlong
  | _ => exact exists_notated_iff (Nat.le_refl _)

theorem failsOnly_asText (v : Value) :
    Failure.FailsOnly (FailsBy Stack.room v) v.asText := by
  rw [asText.eq_def]
  split
  · exact .ok _
  · exact .ok _
  · exact .ok _
  · exact failsOnly_notated (Nat.le_refl _)

theorem asText_eq_tooDeep_iff {v : Value} (h : ¬HoldsLong v) :
    v.asText = .error .tooDeep ↔ Stack.room < v.depth := by
  constructor
  · intro hdeep
    obtain ⟨-, hlong⟩ | ⟨-, hlt⟩ := failsOnly_asText v _ hdeep
    · exact absurd hlong h
    · exact hlt
  · intro hlt
    cases hs : v.asText with
    | ok s => exact absurd (exists_asText_iff.mp ⟨s, hs⟩).1 (Nat.not_le.mpr hlt)
    | error e =>
      obtain ⟨-, hlong⟩ | ⟨rfl, -⟩ := failsOnly_asText v _ hs
      · exact absurd hlong h
      · rfl

theorem startDigits_asText {v : Value} (h : HasShortNumbers v) {s : Text}
    (hs : v.asText = .ok s) : (startDigits s).length ≤ Integer.maxDigits := by
  have hnone (hempty : startDigits s = []) : (startDigits s).length ≤ Integer.maxDigits :=
    hempty ▸ Nat.zero_le _
  cases h with
  | absent | null | bytes octets =>
    cases hs
    exact hnone (startDigits_mark (by decide) _)
  | bool b =>
    cases hs
    cases b <;> exact hnone (startDigits_mark (by decide) _)
  | @int n hn =>
    have hwrite : Integer.write n = .ok s := hs
    rw [Integer.write, hn] at hwrite
    cases hwrite
    rw [startDigits_integer]
    exact natText_length_le hn
  | float x =>
    cases hs
    exact x.startDigits_text.trans (by decide)
  | text hruns =>
    cases hs
    exact hruns.startDigits_le
  | list | tuple | record | set => exact hnone (startDigits_notated_of_isContainer rfl hs)
  | moment m =>
    cases hs
    rw [Moment.text, Moment.textWith, List.append_assoc, (m.date.startDigits_text _).1,
      (m.date.startDigits_text []).2]
    decide
  | date d =>
    cases hs
    have htext := d.startDigits_text []
    rw [List.append_nil] at htext
    rw [htext.1, htext.2]
    decide
  | cyclic hruns hv =>
    cases hs
    exact hruns.startDigits_le
  | cyclicDeep hv => cases hs

end Value

end LitNote
