/-!
Character classes given as tables of code point ranges, in ascending order.
-/

namespace LitNote.Text

abbrev CharTable := List (Nat × Nat)

/-- The look-up ends at the first range that starts beyond the code point. -/
def CharTable.covers : CharTable → Nat → Bool
  | [], _ => false
  | (first, last) :: rest, n =>
    if n < first then false else if n ≤ last then true else CharTable.covers rest n

def CharTable.has (table : CharTable) (c : Char) : Bool := table.covers c.toNat

def CharTable.offset? : CharTable → Nat → Option Nat
  | [], _ => none
  | (first, last) :: rest, n =>
    if n < first then none
    else if n ≤ last then some (n - first)
    else CharTable.offset? rest n

end LitNote.Text
