import LitNote.Value.Basic

/-!
Equality of values, and keys that are the same.  Two values are alike in all their parts exactly if
they are equal; being the same key is symmetric.
-/

namespace LitNote

theorem Binary64.ExactNumber.same_comm (x y : ExactNumber) : x.same y = y.same x := by
  cases x <;> cases y <;> first | rfl | exact BEq.comm

namespace Value

mutual

theorem eq_of_beq {a b : Value} (h : beq a b = true) : a = b := by
  cases a with
  | list xs =>
    cases b with
    | list ys =>
      rw [beq] at h
      rw [eq_of_beqItems h]
    | _ => cases h
  | tuple xs =>
    cases b with
    | tuple ys =>
      rw [beq] at h
      rw [eq_of_beqItems h]
    | _ => cases h
  | record es =>
    cases b with
    | record fs =>
      rw [beq] at h
      rw [eq_of_beqEntries h]
    | _ => cases h
  | set xs =>
    cases b with
    | set ys =>
      rw [beq] at h
      rw [eq_of_beqItems h]
    | _ => cases h
  | cyclic s v =>
    cases b with
    | cyclic t w =>
      cases s <;> cases t <;> simp only [beq, Bool.false_eq_true, Bool.and_eq_true, beq_iff_eq] at h
      · rw [h.1, eq_of_beq h.2]
      · rw [h.1, eq_of_beq h.2]
    | _ => cases s <;> cases h
  | _ => cases b <;> simp_all [beq]

theorem eq_of_beqItems {xs ys : List Value} (h : beqItems xs ys = true) : xs = ys := by
  cases xs with
  | nil =>
    cases ys with
    | nil => rfl
    | cons y ys => cases h
  | cons x xs =>
    cases ys with
    | nil => cases h
    | cons y ys =>
      rw [beqItems, Bool.and_eq_true] at h
      rw [eq_of_beq h.1, eq_of_beqItems h.2]

theorem eq_of_beqEntries {es fs : List (Value × Value)} (h : beqEntries es fs = true) :
    es = fs := by
  cases es with
  | nil =>
    cases fs with
    | nil => rfl
    | cons f fs => cases h
  | cons e es =>
    cases fs with
    | nil => cases h
    | cons f fs =>
      obtain ⟨k, v⟩ := e
      obtain ⟨l, w⟩ := f
      rw [beqEntries, Bool.and_eq_true, Bool.and_eq_true] at h
      rw [eq_of_beq h.1.1, eq_of_beq h.1.2, eq_of_beqEntries h.2]

end

mutual

theorem beq_self (a : Value) : beq a a = true := by
  cases a with
  | list xs => rw [beq, beqItems_self xs]
  | tuple xs => rw [beq, beqItems_self xs]
  | record es => rw [beq, beqEntries_self es]
  | set xs => rw [beq, beqItems_self xs]
  | cyclic s v => cases s <;> rw [beq, beq_self v, beq_self_eq_true, Bool.and_self]
  | _ => simp [beq]

theorem beqItems_self (xs : List Value) : beqItems xs xs = true := by
  cases xs with
  | nil => rfl
  | cons x xs => rw [beqItems, beq_self x, beqItems_self xs, Bool.and_self]

theorem beqEntries_self (es : List (Value × Value)) : beqEntries es es = true := by
  cases es with
  | nil => rfl
  | cons e es =>
    obtain ⟨k, v⟩ := e
    rw [beqEntries, beq_self k, beq_self v, beqEntries_self es, Bool.and_self, Bool.and_self]

end

instance : LawfulBEq Value where
  eq_of_beq := eq_of_beq
  rfl := beq_self _

instance : DecidableEq Value := fun v w => decidable_of_iff (v == w) beq_iff_eq

theorem sameInstant_comm (a b : Moment) : a.sameInstant b = b.sameInstant a := by
  have hoffset : (a.offset.isSome == b.offset.isSome) = (b.offset.isSome == a.offset.isSome) :=
    BEq.comm
  have hseconds : (a.universalSeconds == b.universalSeconds) =
      (b.universalSeconds == a.universalSeconds) := BEq.comm
  have hmicro : (a.time.micro == b.time.micro) = (b.time.micro == a.time.micro) := BEq.comm
  rw [Moment.sameInstant, Moment.sameInstant, hoffset, hseconds, hmicro]

mutual

theorem sameKey_comm (a b : Value) : a.sameKey b = b.sameKey a := by
  cases a with
  | tuple xs =>
    cases b with
    | tuple ys => rw [sameKey, sameKey, sameKeys_comm xs ys]
    | _ => simp [sameKey, number?]
  | moment m =>
    cases b with
    | moment n => rw [sameKey, sameKey, sameInstant_comm]
    | _ => simp [sameKey, number?]
  | _ => cases b <;> simp [sameKey, number?, BEq.comm, Binary64.ExactNumber.same_comm]

theorem sameKeys_comm (xs ys : List Value) : sameKeys xs ys = sameKeys ys xs := by
  cases xs with
  | nil => cases ys <;> rfl
  | cons x xs =>
    cases ys with
    | nil => rfl
    | cons y ys => rw [sameKeys, sameKeys, sameKey_comm x y, sameKeys_comm xs ys]

end

end Value

end LitNote
