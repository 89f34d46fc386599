import LitNote.Proofs.Failure
import LitNote.Proofs.Json.Scalar
import LitNote.Proofs.Value.Record

/-!
JSON that is written and read again.  Main statement: data has a written form, from which it is read
as it was.
-/

namespace LitNote.Json

def entriesOf (fields : List (Text × Value)) : Record :=
  fields.map fun (key, v) => (.text key, v)

/-- Values that JSON holds as they are, with containers that nest no deeper than the number says. -/
inductive IsData : Nat → Value → Prop
  | null (n : Nat) : IsData n .null
  | bool (n : Nat) (b : Bool) : IsData n (.bool b)
  | int (n : Nat) {i : Int} : Integer.tooLong i = false → IsData n (.int i)
  | text (n : Nat) (s : Text) : IsData n (.text s)
  | list {n : Nat} {xs : List Value} : (∀ x ∈ xs, IsData n x) → IsData (n + 1) (.list xs)
  | record {n : Nat} {fields : List (Text × Value)} : (fields.map Prod.fst).Nodup →
      (∀ f ∈ fields, IsData n f.2) → IsData (n + 1) (.record (entriesOf fields))

def StartsValue (s : Text) : Prop :=
  ∃ c t, s = c :: t ∧ c.toNat < 128 ∧ Text.isBlank c = false ∧ c ≠ ']' ∧ c ≠ '}'

theorem isBlank_of_isSpace {c : Char} (h : isSpace c = true) : Text.isBlank c = true := by
  simp only [isSpace, Bool.or_eq_true, beq_iff_eq] at h
  obtain ((rfl | rfl) | rfl) | rfl := h <;> decide

theorem skipSpace_cons {c : Char} (hc : Text.isBlank c = false) (t : Text) :
    skipSpace (c :: t) = c :: t := by
  refine List.dropWhile_cons_of_neg fun hspace => ?_
  rw [isBlank_of_isSpace hspace] at hc
  cases hc

theorem skipSpace_of_startsValue {s : Text} (h : StartsValue s) (rest : Text) :
    skipSpace (s ++ rest) = s ++ rest := by
  obtain ⟨c, t, rfl, -, hc, -⟩ := h
  exact skipSpace_cons hc (t ++ rest)

/-- `s` is the written form of a value, and this value is read from it whatever follows. -/
structure Written (n : Nat) (v : Value) (s : Text) : Prop where
  write_eq : ∀ room, n ≤ room → write v room = .ok s
  starts : StartsValue s
  read : ∀ rest, EndsNumber rest → readValue n (s ++ rest) = .ok (v, rest)

theorem endsNumber_cons {c : Char} {rest : Text} (hdigit : Text.isAsciiDigit c = false)
    (hpoint : c ≠ '.') (he : c ≠ 'e') (hE : c ≠ 'E') : EndsNumber (c :: rest) := by
  rintro d hd
  cases hd
  exact ⟨hdigit, hpoint, he, hE⟩

theorem written_null (n : Nat) : Written n .null "null".toList where
  write_eq _ _ := rfl
  starts := ⟨'n', _, rfl, by decide, by decide, by decide, by decide⟩
  read rest _ := by cases n <;> rfl

theorem written_bool (n : Nat) (b : Bool) : Written n (.bool b) (writeBool b) where
  write_eq _ _ := rfl
  starts := by
    cases b with
    | true => exact ⟨'t', _, rfl, by decide, by decide, by decide, by decide⟩
    | false => exact ⟨'f', _, rfl, by decide, by decide, by decide, by decide⟩
  read rest _ := by cases n <;> cases b <;> rfl

theorem readValue_writeText (n : Nat) (s rest : Text) :
    readValue n (writeText s ++ rest) = .ok (.text s, rest) := by
  have hread := readString_writeText s rest
  have happ : writeText s ++ rest = '"' :: (s.flatMap writeChar ++ '"' :: rest) := by
    simp [writeText]
  rw [happ]
  cases n <;> simp [readValue, hread, bind, Except.bind, pure, Except.pure]

theorem written_text (n : Nat) (s : Text) : Written n (.text s) (writeText s) where
  write_eq _ _ := rfl
  starts := ⟨'"', _, rfl, by decide, by decide, by decide, by decide⟩
  read rest _ := readValue_writeText n s rest

def StartsNumber (s : Text) : Prop :=
  ∃ c t, s = c :: t ∧
    (Text.isAsciiDigit c = true ∨ c = '-' ∧ ∃ d u, t = d :: u ∧ Text.isAsciiDigit d = true)

theorem startsNumber_text (n : Int) (rest : Text) : StartsNumber (Integer.text n ++ rest) := by
  have hwhole := isWhole_natText n.natAbs
  obtain ⟨c, cs, hc⟩ := List.exists_cons_of_ne_nil hwhole.ne_nil
  have hdigit : Text.isAsciiDigit c = true := hwhole.all c (hc ▸ List.mem_cons_self ..)
  rw [Integer.text, hc]
  split
  · exact ⟨'-', _, rfl, .inr ⟨rfl, c, _, rfl, hdigit⟩⟩
  · exact ⟨c, _, rfl, .inl hdigit⟩

theorem startsValue_of_startsNumber {s : Text} (h : StartsNumber s) : StartsValue s := by
  obtain ⟨c, t, rfl, hc | ⟨rfl, -⟩⟩ := h
  · have hlt : c.toNat < 128 := by
      simp only [Text.isAsciiDigit, Bool.and_eq_true, decide_eq_true_eq] at hc
      omega
    have hne {d : Char} (hd : Text.isAsciiDigit d = false) : c ≠ d := by
      rintro rfl
      rw [hc] at hd
      cases hd
    exact ⟨c, t, rfl, hlt, Text.isBlank_of_isAsciiDigit hc, hne rfl, hne rfl⟩
  · exact ⟨'-', t, rfl, by decide, by decide, by decide, by decide⟩

theorem words_start {word : Text} {v : Value} (h : (word, v) ∈ words) :
    ∃ c d t, word = c :: d :: t ∧ Text.isBlank c = false ∧ Text.isAsciiDigit c = false ∧
      Text.isAsciiDigit d = false := by
  simp only [words, List.mem_cons, Prod.mk.injEq, List.not_mem_nil, or_false] at h
  obtain ⟨rfl, -⟩ | ⟨rfl, -⟩ | ⟨rfl, -⟩ | ⟨rfl, -⟩ | ⟨rfl, -⟩ | ⟨rfl, -⟩ := h <;>
    exact ⟨_, _, _, rfl, by decide, by decide, by decide⟩

theorem readScalar_of_no_word {s : Text} (h : ∀ {word v}, (word, v) ∈ words → ¬ word <+: s) :
    readScalar s = readNumber s := by
  rw [readScalar]
  split
  · next hfind =>
    have hprefix := List.find?_some hfind
    exact absurd (List.isPrefixOf_iff_prefix.mp hprefix) (h (List.mem_of_find?_eq_some hfind))
  · rfl

theorem readScalar_of_startsNumber {s : Text} (h : StartsNumber s) :
    readScalar s = readNumber s := by
  refine readScalar_of_no_word fun hmem hprefix => ?_
  obtain ⟨c, d, t, rfl, -, hc, hd⟩ := words_start hmem
  obtain ⟨u, rfl⟩ := hprefix
  obtain ⟨c', t', heq, hc' | ⟨rfl, d', u', rfl, hd'⟩⟩ := h
  · cases heq
    rw [hc] at hc'
    cases hc'
  · cases heq
    rw [hd] at hd'
    cases hd'

theorem readValue_eq_readScalar (n : Nat) {c : Char} (hquote : c ≠ '"') (hbracket : c ≠ '[')
    (hbrace : c ≠ '{') (t : Text) : readValue n (c :: t) = readScalar (c :: t) := by
  cases n <;> simp [readValue, hquote, hbracket, hbrace]

theorem readValue_of_startsNumber (n : Nat) {s : Text} (h : StartsNumber s) :
    readValue n s = readNumber s := by
  rw [← readScalar_of_startsNumber h]
  obtain ⟨c, t, rfl, hc⟩ := h
  have hne : c ≠ '"' ∧ c ≠ '[' ∧ c ≠ '{' := by
    obtain hc | ⟨rfl, -⟩ := hc
    · refine ⟨?_, ?_, ?_⟩ <;> (rintro rfl; exact absurd hc (by decide))
    · decide
  exact readValue_eq_readScalar n hne.1 hne.2.1 hne.2.2 t

theorem written_int (n : Nat) {i : Int} (hi : Integer.tooLong i = false) :
    Written n (.int i) (Integer.text i) where
  write_eq _ _ := by
    rw [write, Integer.write, hi]
    rfl
  starts := by
    have h := startsNumber_text i []
    rw [List.append_nil] at h
    exact startsValue_of_startsNumber h
  read rest hr := by
    rw [readValue_of_startsNumber n (startsNumber_text i rest), readNumber_text hi hr]

theorem readItems_last {value : Text → Result (Value × Text)} {s rest : Text} {v : Value}
    {fuel : Nat} (hv : value s = .ok (v, ']' :: rest)) :
    readItems value (fuel + 1) s = .ok ([v], rest) := by
  rw [readItems, hv]
  rfl

theorem readItems_more {value : Text → Result (Value × Text)} {s t rest : Text} {v : Value}
    {vs : List Value} {fuel : Nat} (hv : value s = .ok (v, ',' :: t))
    (hvs : readItems value fuel (skipSpace t) = .ok (vs, rest)) :
    readItems value (fuel + 1) s = .ok (v :: vs, rest) := by
  rw [readItems, hv]
  show (readItems value fuel (skipSpace t)).bind _ = _
  rw [hvs]
  rfl

theorem readItems_cases {value : Text → Result (Value × Text)} {s rest : Text} {vs : List Value}
    {fuel : Nat} (h : readItems value fuel s = .ok (vs, rest)) :
    ∃ k v after, fuel = k + 1 ∧ value s = .ok (v, after) ∧
      ((skipSpace after = ']' :: rest ∧ vs = [v]) ∨
        ∃ t ws, skipSpace after = ',' :: t ∧ readItems value k (skipSpace t) = .ok (ws, rest) ∧
          vs = v :: ws) := by
  cases fuel with
  | zero => cases h
  | succ k =>
    rw [readItems] at h
    obtain ⟨⟨v, after⟩, hv, h⟩ := Failure.bind_eq_ok_iff.mp h
    refine ⟨k, v, after, rfl, hv, ?_⟩
    dsimp only at h
    split at h
    · next heq =>
      cases h
      exact .inl ⟨heq, rfl⟩
    · next t heq =>
      obtain ⟨⟨ws, u⟩, hws, h⟩ := Failure.bind_eq_ok_iff.mp h
      cases h
      exact .inr ⟨t, ws, heq, hws, rfl⟩
    · cases h

theorem readArray_cases {value : Text → Result (Value × Text)} {s rest : Text} {v : Value}
    (h : readArray value s = .ok (v, rest)) :
    (skipSpace s = ']' :: rest ∧ v = .list []) ∨
      ∃ fuel vs, readItems value fuel (skipSpace s) = .ok (vs, rest) ∧ v = .list vs := by
  rw [readArray] at h
  split at h
  · next heq =>
    cases h
    exact .inl ⟨heq, rfl⟩
  · obtain ⟨⟨vs, u⟩, hvs, h⟩ := Failure.bind_eq_ok_iff.mp h
    cases h
    exact .inr ⟨_, vs, hvs, rfl⟩

structure WrittenItems (n : Nat) (vs : List Value) (s : Text) : Prop where
  write_eq : ∀ room, n ≤ room → writeItems vs room = .ok s
  starts : StartsValue s
  read : ∀ rest fuel, s.length ≤ fuel →
    readItems (readValue n) fuel (s ++ ']' :: rest) = .ok (vs, rest)

theorem StartsValue.append {s : Text} (h : StartsValue s) (t : Text) : StartsValue (s ++ t) := by
  obtain ⟨c, u, rfl, hc⟩ := h
  exact ⟨c, u ++ t, rfl, hc⟩

theorem StartsValue.length_pos {s : Text} (h : StartsValue s) : 0 < s.length := by
  obtain ⟨c, t, rfl, -⟩ := h
  exact Nat.succ_pos _

theorem WrittenItems.single {n : Nat} {v : Value} {s : Text} (h : Written n v s) :
    WrittenItems n [v] s where
  write_eq room hroom := by rw [writeItems, h.write_eq room hroom]
  starts := h.starts
  read rest fuel hfuel := by
    obtain ⟨fuel, rfl⟩ := Nat.exists_eq_add_one.mpr (Nat.lt_of_lt_of_le h.starts.length_pos hfuel)
    exact readItems_last (h.read _ (endsNumber_cons rfl (by decide) (by decide) (by decide)))

theorem WrittenItems.cons {n : Nat} {v : Value} {vs : List Value} {s t : Text}
    (h : Written n v s) (hs : WrittenItems n vs t) (hne : vs ≠ []) :
    WrittenItems n (v :: vs) (s ++ ',' :: t) where
  write_eq room hroom := by
    rw [writeItems, h.write_eq room hroom, hs.write_eq room hroom]
    · rfl
    · exact hne
  starts := h.starts.append _
  read rest fuel hfuel := by
    rw [List.length_append, List.length_cons] at hfuel
    obtain ⟨fuel, rfl⟩ : ∃ k, fuel = k + 1 := ⟨fuel - 1, by omega⟩
    rw [List.append_assoc, List.cons_append]
    refine readItems_more (h.read _ (endsNumber_cons rfl (by decide) (by decide) (by decide))) ?_
    rw [skipSpace_of_startsValue hs.starts]
    exact hs.read rest fuel (by omega)

theorem exists_writtenItems {n : Nat} {vs : List Value} (hne : vs ≠ [])
    (h : ∀ v ∈ vs, ∃ s, Written n v s) : ∃ s, WrittenItems n vs s := by
  induction vs with
  | nil => exact absurd rfl hne
  | cons v vs ih =>
    obtain ⟨s, hs⟩ := h v (List.mem_cons_self ..)
    by_cases hvs : vs = []
    · rw [hvs]
      exact ⟨s, .single hs⟩
    · obtain ⟨t, ht⟩ := ih hvs fun w hw => h w (List.mem_cons_of_mem v hw)
      exact ⟨_, .cons hs ht hvs⟩

theorem writtenItems_texts (n : Nat) {ss : List Text} (hne : ss ≠ []) :
    WrittenItems n (ss.map .text) (Text.join [','] (ss.map writeText)) := by
  induction ss with
  | nil => exact absurd rfl hne
  | cons s ss ih =>
    cases ss with
    | nil =>
      have hjoin : Text.join [','] [writeText s] = writeText s := List.intercalate_singleton
      rw [List.map_singleton, List.map_singleton, hjoin]
      exact .single (written_text n s)
    | cons t ss =>
      have hjoin : Text.join [','] ((s :: t :: ss).map writeText) =
          writeText s ++ ',' :: Text.join [','] ((t :: ss).map writeText) := by
        rw [Text.join, List.map_cons, List.map_cons, List.intercalate_cons_cons, List.append_assoc]
        rfl
      rw [hjoin]
      exact .cons (written_text n s) (ih (List.cons_ne_nil _ _)) (List.cons_ne_nil _ _)

theorem readArray_of_items {value : Text → Result (Value × Text)} {s rest : Text}
    {vs : List Value} (hs : StartsValue s)
    (h : readItems value (s.length + 1) s = .ok (vs, rest)) :
    readArray value s = .ok (.list vs, rest) := by
  have hskip := skipSpace_of_startsValue hs []
  rw [List.append_nil] at hskip
  obtain ⟨c, t, rfl, -, -, hc, -⟩ := hs
  rw [readArray, hskip]
  split
  · next heq =>
    cases heq
    exact absurd rfl hc
  · rw [h]
    rfl

theorem written_nil (n : Nat) : Written (n + 1) (.list []) ['[', ']'] where
  write_eq room hroom := by
    rw [write, Stack.descend_of_le (by omega)]
    rfl
  starts := ⟨'[', _, rfl, by decide, by decide, by decide, by decide⟩
  read _ _ := rfl

theorem written_list {n : Nat} {vs : List Value} {s : Text} (h : WrittenItems n vs s) :
    Written (n + 1) (.list vs) ('[' :: (s ++ [']'])) where
  write_eq room hroom := by
    rw [write, Stack.descend_of_le (by omega), h.write_eq (room - 1) (by omega)]
    rfl
  starts := ⟨'[', _, rfl, by decide, by decide, by decide, by decide⟩
  read rest _ := by
    have happ : '[' :: (s ++ [']']) ++ rest = '[' :: (s ++ ']' :: rest) := by simp
    rw [happ, readValue]
    refine readArray_of_items (h.starts.append _) (h.read rest _ ?_)
    rw [List.length_append]
    omega

theorem readEntry_eq_ok {value : Text → Result (Value × Text)} {key s rest : Text} {v : Value}
    (hs : StartsValue s) (h : value s = .ok (v, rest)) :
    readEntry value (writeText key ++ ':' :: s) = .ok ((.text key, v), rest) := by
  have hkey := readString_writeText key (':' :: s)
  have hskip := skipSpace_of_startsValue hs []
  rw [List.append_nil] at hskip
  have happ : writeText key ++ ':' :: s =
      '"' :: (key.flatMap writeChar ++ '"' :: ':' :: s) := by
    simp [writeText]
  have hcolon : skipSpace (':' :: s) = ':' :: s := rfl
  rw [happ, readEntry]
  simp only [hkey, hcolon, hskip, h, bind, Except.bind, pure, Except.pure]

structure WrittenEntries (n : Nat) (es : Record) (s : Text) : Prop where
  write_eq : ∀ room, n ≤ room → writeEntries es room = .ok s
  starts : StartsValue s
  read : ∀ rest fuel, s.length ≤ fuel →
    readEntries (readValue n) fuel (s ++ '}' :: rest) = .ok (es, rest)

theorem readEntries_last {value : Text → Result (Value × Text)} {s rest : Text}
    {e : Value × Value} {fuel : Nat} (he : readEntry value s = .ok (e, '}' :: rest)) :
    readEntries value (fuel + 1) s = .ok ([e], rest) := by
  rw [readEntries, he]
  rfl

theorem readEntries_more {value : Text → Result (Value × Text)} {s t rest : Text}
    {e : Value × Value} {es : Record} {fuel : Nat} (he : readEntry value s = .ok (e, ',' :: t))
    (hes : readEntries value fuel (skipSpace t) = .ok (es, rest)) :
    readEntries value (fuel + 1) s = .ok (e :: es, rest) := by
  rw [readEntries, he]
  show (readEntries value fuel (skipSpace t)).bind _ = _
  rw [hes]
  rfl

theorem startsValue_writeText (key rest : Text) : StartsValue (writeText key ++ rest) :=
  (written_text 0 key).starts.append rest

theorem WrittenEntries.single {n : Nat} {v : Value} {s : Text} (key : Text) (h : Written n v s) :
    WrittenEntries n [(.text key, v)] (writeText key ++ ':' :: s) where
  write_eq room hroom := by
    rw [writeEntries, h.write_eq room hroom]
    rfl
  starts := startsValue_writeText key _
  read rest fuel hfuel := by
    rw [List.length_append, List.length_cons] at hfuel
    obtain ⟨fuel, rfl⟩ : ∃ k, fuel = k + 1 := ⟨fuel - 1, by omega⟩
    rw [List.append_assoc, List.cons_append]
    exact readEntries_last (readEntry_eq_ok (h.starts.append _)
      (h.read _ (endsNumber_cons rfl (by decide) (by decide) (by decide))))

theorem WrittenEntries.cons {n : Nat} {v : Value} {es : Record} {s t : Text} (key : Text)
    (h : Written n v s) (hs : WrittenEntries n es t) (hne : es ≠ []) :
    WrittenEntries n ((.text key, v) :: es) (writeText key ++ ':' :: (s ++ ',' :: t)) where
  write_eq room hroom := by
    rw [writeEntries, h.write_eq room hroom, hs.write_eq room hroom]
    · simp [writeKey, bind, Except.bind, pure, Except.pure]
    · exact hne
  starts := startsValue_writeText key _
  read rest fuel hfuel := by
    simp only [List.length_append, List.length_cons] at hfuel
    obtain ⟨fuel, rfl⟩ : ∃ k, fuel = k + 1 := ⟨fuel - 1, by omega⟩
    rw [List.append_assoc, List.cons_append, List.append_assoc, List.cons_append]
    refine readEntries_more (readEntry_eq_ok (h.starts.append _)
      (h.read _ (endsNumber_cons rfl (by decide) (by decide) (by decide)))) ?_
    rw [skipSpace_of_startsValue hs.starts]
    exact hs.read rest fuel (by omega)

theorem exists_writtenEntries {n : Nat} {fields : List (Text × Value)} (hne : fields ≠ [])
    (h : ∀ f ∈ fields, ∃ s, Written n f.2 s) : ∃ s, WrittenEntries n (entriesOf fields) s := by
  induction fields with
  | nil => exact absurd rfl hne
  | cons f fields ih =>
    obtain ⟨s, hs⟩ := h f (List.mem_cons_self ..)
    by_cases hfields : fields = []
    · rw [hfields]
      exact ⟨_, .single f.1 hs⟩
    · obtain ⟨t, ht⟩ := ih hfields fun g hg => h g (List.mem_cons_of_mem f hg)
      exact ⟨_, .cons f.1 hs ht (by simpa [entriesOf] using hfields)⟩

theorem update_entriesOf {r : Record} {fields : List (Text × Value)}
    (hfresh : ∀ f ∈ fields, ∀ e ∈ r, e.1.sameKey (.text f.1) = false)
    (hdistinct : (fields.map Prod.fst).Nodup) :
    r.update (entriesOf fields) = r ++ entriesOf fields := by
  induction fields generalizing r with
  | nil => exact (List.append_nil r).symm
  | cons f fields ih =>
    obtain ⟨key, v⟩ := f
    rw [List.map_cons, List.nodup_cons] at hdistinct
    have hput : r.put (.text key) v = r ++ [(.text key, v)] :=
      Record.put_of_fresh (fun e he => hfresh (key, v) (List.mem_cons_self ..) e he) v
    have ih := @ih (r ++ [(.text key, v)]) (fun g hg e he => by
      obtain he | he := List.mem_append.mp he
      · exact hfresh g (List.mem_cons_of_mem _ hg) e he
      · cases List.mem_singleton.mp he
        rw [Value.sameKey_text]
        refine beq_false_of_ne ?_
        intro hkey
        have hmem : g.1 ∈ fields.map Prod.fst := List.mem_map_of_mem hg
        exact hdistinct.1 (hkey ▸ hmem)) hdistinct.2
    rw [List.append_assoc] at ih
    rw [← hput] at ih
    exact ih

theorem ofEntries_entriesOf {fields : List (Text × Value)}
    (hdistinct : (fields.map Prod.fst).Nodup) :
    Record.ofEntries (entriesOf fields) = entriesOf fields :=
  update_entriesOf (fun _ _ _ he => absurd he List.not_mem_nil) hdistinct

theorem readObject_of_entries {value : Text → Result (Value × Text)} {s rest : Text}
    {es : Record} (hs : StartsValue s)
    (h : readEntries value (s.length + 1) s = .ok (es, rest)) :
    readObject value s = .ok (.record (Record.ofEntries es), rest) := by
  have hskip := skipSpace_of_startsValue hs []
  rw [List.append_nil] at hskip
  obtain ⟨c, t, rfl, -, -, -, hc⟩ := hs
  rw [readObject, hskip]
  split
  · next heq =>
    cases heq
    exact absurd rfl hc
  · rw [h]
    rfl

theorem written_empty (n : Nat) : Written (n + 1) (.record []) ['{', '}'] where
  write_eq room hroom := by
    rw [write, Stack.descend_of_le (by omega)]
    rfl
  starts := ⟨'{', _, rfl, by decide, by decide, by decide, by decide⟩
  read _ _ := rfl

theorem written_record {n : Nat} {fields : List (Text × Value)} {s : Text}
    (hdistinct : (fields.map Prod.fst).Nodup) (h : WrittenEntries n (entriesOf fields) s) :
    Written (n + 1) (.record (entriesOf fields)) ('{' :: (s ++ ['}'])) where
  write_eq room hroom := by
    rw [write, Stack.descend_of_le (by omega), h.write_eq (room - 1) (by omega)]
    rfl
  starts := ⟨'{', _, rfl, by decide, by decide, by decide, by decide⟩
  read rest _ := by
    have happ : '{' :: (s ++ ['}']) ++ rest = '{' :: (s ++ '}' :: rest) := by simp
    have hread := h.read rest ((s ++ '}' :: rest).length + 1) (by
      rw [List.length_append]
      omega)
    rw [happ, readValue, readObject_of_entries (h.starts.append _) hread,
      ofEntries_entriesOf hdistinct]

theorem exists_written {n : Nat} {v : Value} (h : IsData n v) : ∃ s, Written n v s := by
  induction h with
  | null n => exact ⟨_, written_null n⟩
  | bool n b => exact ⟨_, written_bool n b⟩
  | int n hi => exact ⟨_, written_int n hi⟩
  | text n s => exact ⟨_, written_text n s⟩
  | @list n vs _ ih =>
    by_cases hne : vs = []
    · rw [hne]
      exact ⟨_, written_nil n⟩
    · obtain ⟨s, hs⟩ := exists_writtenItems hne ih
      exact ⟨_, written_list hs⟩
  | @record n fields hdistinct _ ih =>
    by_cases hne : fields = []
    · rw [hne]
      exact ⟨_, written_empty n⟩
    · obtain ⟨s, hs⟩ := exists_writtenEntries hne ih
      exact ⟨_, written_record hdistinct hs⟩

theorem read_of_readValue {s rest : Text} {v : Value} (hmark : s.head? ≠ some (Char.ofNat 0xFEFF))
    (h : readValue maxDepth (skipSpace s) = .ok (v, rest)) (hrest : skipSpace rest = []) :
    read s = .ok v := by
  rw [read, beq_false_of_ne hmark, h]
  simp only [Bool.false_eq_true, if_false, bind, Except.bind, hrest]
  rfl

theorem read_of_readValue_error {s : Text} {f : Fault}
    (hmark : s.head? ≠ some (Char.ofNat 0xFEFF))
    (h : readValue maxDepth (skipSpace s) = .error f) : read s = .error f := by
  rw [read, beq_false_of_ne hmark, h]
  rfl

theorem read_of_written {v : Value} {s : Text} (h : Written maxDepth v s) : read s = .ok v := by
  have hskip := skipSpace_of_startsValue h.starts []
  have hread := h.read [] endsNumber_nil
  rw [List.append_nil] at hskip hread
  rw [← hskip] at hread
  refine read_of_readValue ?_ hread rfl
  obtain ⟨c, t, rfl, hc, -⟩ := h.starts
  intro heq
  cases heq
  exact absurd hc (by decide)

end LitNote.Json
