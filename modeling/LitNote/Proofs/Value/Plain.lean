import LitNote.Proofs.Value.Notation

/-!
The plain text of values.  Main statement: a value has one unless some number in it, not counting
those in records, is too long, or it nests too deep.
-/

namespace LitNote.Value

inductive HasLong : Value → Prop
  | int {n : Int} : Integer.tooLong n = true → HasLong (.int n)
  | list {xs : List Value} {x : Value} : x ∈ xs → HasLong x → HasLong (.list xs)
  | tuple {xs : List Value} {x : Value} : x ∈ xs → HasLong x → HasLong (.tuple xs)
  | set {xs : List Value} : HoldsLong (.set xs) → HasLong (.set xs)

/-- A value for whose plain text there is no room: lists take three calls each, records what their
JSON form takes and sets what their notation takes. -/
inductive Outgrows : Nat → Value → Prop
  | list {room : Nat} (xs : List Value) : room < 3 → Outgrows room (.list xs)
  | listItem {room : Nat} {xs : List Value} {x : Value} : x ∈ xs → Outgrows (room - 3) x →
      Outgrows room (.list xs)
  | tuple {room : Nat} (xs : List Value) : room < 3 → Outgrows room (.tuple xs)
  | tupleItem {room : Nat} {xs : List Value} {x : Value} : x ∈ xs → Outgrows (room - 3) x →
      Outgrows room (.tuple xs)
  | record {room : Nat} {es : Record} : Json.write (.record es) room = .error .tooDeep →
      Outgrows room (.record es)
  | set {room : Nat} {xs : List Value} : room < (Value.set xs).depth → Outgrows room (.set xs)
  | cyclic {room : Nat} {display : Except Failure Text} {v : Value} : v.isRecord = false →
      Outgrows room (.cyclic display v)

section
variable {n : Int} {room : Nat} {xs : List Value} {es : Record} {v : Value}
  {display : Except Failure Text}

theorem hasLong_int_iff : HasLong (.int n) ↔ Integer.tooLong n = true := by
  constructor
  · rintro ⟨h⟩
    exact h
  · exact .int

theorem hasLong_list_iff : HasLong (.list xs) ↔ ∃ x ∈ xs, HasLong x := by
  constructor
  · rintro (_ | ⟨hx, h⟩)
    exact ⟨_, hx, h⟩
  · rintro ⟨x, hx, h⟩
    exact .list hx h

theorem hasLong_tuple_iff : HasLong (.tuple xs) ↔ ∃ x ∈ xs, HasLong x := by
  constructor
  · rintro (_ | _ | ⟨hx, h⟩)
    exact ⟨_, hx, h⟩
  · rintro ⟨x, hx, h⟩
    exact .tuple hx h

theorem hasLong_set_iff : HasLong (.set xs) ↔ HoldsLong (.set xs) := by
  constructor
  · rintro (_ | _ | _ | h)
    exact h
  · exact .set

theorem outgrows_list_iff :
    Outgrows room (.list xs) ↔ room < 3 ∨ ∃ x ∈ xs, Outgrows (room - 3) x := by
  constructor
  · rintro (⟨-, h⟩ | ⟨hx, h⟩)
    · exact .inl h
    · exact .inr ⟨_, hx, h⟩
  · rintro (h | ⟨x, hx, h⟩)
    · exact .list xs h
    · exact .listItem hx h

theorem outgrows_tuple_iff :
    Outgrows room (.tuple xs) ↔ room < 3 ∨ ∃ x ∈ xs, Outgrows (room - 3) x := by
  constructor
  · rintro (_ | _ | ⟨-, h⟩ | ⟨hx, h⟩)
    · exact .inl h
    · exact .inr ⟨_, hx, h⟩
  · rintro (h | ⟨x, hx, h⟩)
    · exact .tuple xs h
    · exact .tupleItem hx h

theorem outgrows_record_iff :
    Outgrows room (.record es) ↔ Json.write (.record es) room = .error .tooDeep := by
  constructor
  · rintro (_ | _ | _ | _ | h)
    exact h
  · exact .record

theorem outgrows_set_iff : Outgrows room (.set xs) ↔ room < (Value.set xs).depth := by
  constructor
  · rintro (_ | _ | _ | _ | _ | h)
    exact h
  · exact .set

theorem outgrows_cyclic_iff : Outgrows room (.cyclic display v) ↔ v.isRecord = false := by
  constructor
  · rintro (_ | _ | _ | _ | _ | _ | h)
    exact h
  · exact .cyclic

end

theorem plainItems_eq (xs : List Value) (room : Nat) :
    plainItems xs room = (xs.mapM fun x => plain x room).map (Text.join [',']) := by
  refine Failure.eq_map_join (plainItems · room) (plain · room) _ (plainItems.eq_1 _)
    (fun _ => plainItems.eq_2 ..) (fun x y rest => ?_) xs
  rw [plainItems]
  · rfl
  · exact List.cons_ne_nil y rest

theorem exists_plainItems_iff {xs : List Value} {room : Nat} :
    (∃ s, plainItems xs room = .ok s) ↔ ∀ x ∈ xs, ∃ s, plain x room = .ok s := by
  rw [plainItems_eq, Failure.exists_map_iff, Failure.exists_mapM_iff]

theorem exists_descend_plainItems_iff {xs : List Value} {room : Nat} :
    (∃ s, Stack.descend 3 room (fun room => plainItems xs room) = .ok s) ↔
      3 ≤ room ∧ ∀ x ∈ xs, ∃ s, plain x (room - 3) = .ok s := by
  simp only [Stack.descend_eq_ok_iff, exists_and_left, exists_plainItems_iff]

/-- A value has a plain text unless some number in it is too long or it nests too deep. -/
theorem exists_plain_iff {v : Value} {room : Nat} (hroom : room ≤ Stack.room) :
    (∃ s, v.plain room = .ok s) ↔ ¬HasLong v ∧ ¬Outgrows room v := by
  induction v using Value.deepInduction generalizing room with
  | scalar v hv =>
    have hfits : ¬Outgrows room v := by
      rintro ⟨⟩ <;> cases hv
    rw [and_iff_left hfits]
    cases v with
    | int n =>
      rw [plain, hasLong_int_iff]
      exact exists_write_iff
    | list | tuple | record | set | cyclic => cases hv
    | _ =>
      refine ⟨fun _ hlong => ?_, fun _ => ⟨_, rfl⟩⟩
      cases hlong
  | list xs ih =>
    have ih := forall₂_congr fun x hx => ih x hx ((room.sub_le 3).trans hroom)
    rw [plain, exists_descend_plainItems_iff, ih, hasLong_list_iff, outgrows_list_iff]
    simp only [forall_and, not_exists, not_and, not_or, Nat.not_lt]
    tauto
  | tuple xs ih =>
    have ih := forall₂_congr fun x hx => ih x hx ((room.sub_le 3).trans hroom)
    rw [plain, exists_descend_plainItems_iff, ih, hasLong_tuple_iff, outgrows_tuple_iff]
    simp only [forall_and, not_exists, not_and, not_or, Nat.not_lt]
    tauto
  | record es _ =>
    have hlong : ¬HasLong (.record es) := fun hlong => by cases hlong
    rw [plain, Json.exists_writeOr_iff, outgrows_record_iff, and_iff_right hlong]
  | set xs _ =>
    rw [plain, exists_notated_iff hroom, hasLong_set_iff, outgrows_set_iff, Nat.not_lt, and_comm]
  | cyclic display v _ =>
    have hlong : ¬HasLong (.cyclic display v) := fun hlong => by cases hlong
    rw [plain, outgrows_cyclic_iff, and_iff_right hlong]
    split
    · next h => simp [h]
    · next h => simp [h]

theorem isCaught_of_failsBy {v : Value} {room : Nat} {e : Failure} (h : FailsBy room v e) :
    Failure.IsCaught e := by
  obtain ⟨rfl, -⟩ | ⟨rfl, -⟩ := h <;> trivial

theorem failsOnly_writeOr (other : String) (v : Value) (room : Nat) :
    Failure.FailsOnly Failure.IsCaught (Json.writeOr other v room) := by
  intro e he
  rw [(Json.writeOr_eq_error he).1]
  trivial

theorem failsOnly_plain {v : Value} {room : Nat} (hroom : room ≤ Stack.room) :
    Failure.FailsOnly Failure.IsCaught (v.plain room) := by
  induction v using Value.deepInduction generalizing room with
  | scalar v hv =>
    cases v with
    | int n =>
      rw [plain, Integer.write]
      split
      · exact .error trivial
      · exact .ok _
    | list | tuple | record | set | cyclic => cases hv
    | _ => exact .ok _
  | list xs ih | tuple xs ih =>
    rw [plain]
    refine Stack.failsOnly_descend (fun _ => trivial) fun _ => ?_
    rw [plainItems_eq]
    exact (Failure.FailsOnly.mapM_of_mem fun x hx => ih x hx ((room.sub_le 3).trans hroom)).map
  | record es _ =>
    rw [plain]
    exact failsOnly_writeOr _ _ _
  | set xs _ =>
    rw [plain]
    exact (failsOnly_notated hroom).imp fun _ => isCaught_of_failsBy
  | cyclic display v _ =>
    rw [plain]
    split
    · exact .ok _
    · exact .error trivial

theorem failsOnly_shown (v : Value) : Failure.FailsOnly Failure.IsCaught v.shown := by
  rw [shown.eq_def]
  split
  · exact failsOnly_writeOr _ _ _
  · exact failsOnly_writeOr _ _ _
  · exact failsOnly_writeOr _ _ _
  · exact .ok _
  · exact failsOnly_plain (Nat.le_refl _)

end LitNote.Value
