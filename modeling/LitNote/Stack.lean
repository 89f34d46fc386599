import LitNote.Failure

/-!
Room for calls within one another.  Values are read and written by functions that descend into them,
and each call below another one takes from the room that is left.
-/

namespace LitNote.Stack

/-- The calls that fit within one another below a function: what those around it leave of the
thousand that there are.  As these differ, no more is used of it than the two bounds. -/
def room : Nat := 900

theorem le_room {n : Nat} (h : n ≤ 100) : n ≤ room := Nat.le_trans h (by decide)

theorem room_lt {n : Nat} (h : 1000 ≤ n) : room < n := Nat.lt_of_lt_of_le (by decide) h

variable {α β : Type} {calls left : Nat} {go : Nat → Except Failure α}

def descend (calls left : Nat) (go : Nat → Except Failure α) : Except Failure α :=
  if calls ≤ left then go (left - calls) else .error .tooDeep

theorem descend_of_le (h : calls ≤ left) : descend calls left go = go (left - calls) := if_pos h

theorem descend_of_lt (h : left < calls) : descend calls left go = .error .tooDeep :=
  if_neg (Nat.not_le.mpr h)

end LitNote.Stack
