import LitNote.Value.Basic

/-!
The order of the members of a set.  Numbers stand in the order of their places in a table: a number
takes the place of its residue or, if that is taken, the next free one of a fixed search.  Members
of other kinds keep the order in which they came.
-/

namespace LitNote.Members

def modulus : Nat := 2305843009213693951

/-- The residue of `num / den`, where `den` is a power of two.  As `2 ^ 61` has the residue one, to
divide by a power of two is to multiply by another. -/
def residue (num den : Nat) : Nat := num % modulus * Nat.pow 2 (61 - den.log2 % 61) % modulus

/-- The number by which a member is placed, if it has one; nothing is placed by -1. -/
def code? (v : Value) : Option Int :=
  match v.number? with
  | some (.ratio num den) =>
    let n : Int := if num < 0 then -(residue num.natAbs den : Int) else residue num.natAbs den
    some (if n = -1 then -2 else n)
  | some (.infinite negative) => some (if negative then -314159 else 314159)
  | _ => none

def powerBeyond (least : Nat) : Nat → Nat → Nat
  | 0, size => size
  | fuel + 1, size => if size ≤ least then powerBeyond least fuel (2 * size) else size

def tableSize (count : Nat) : Nat := if count < 5 then 8 else powerBeyond (2 * count) count 8

abbrev Table := Array (Option Value)

def isFree (t : Table) (i : Nat) : Bool := (t[i]?.getD none).isNone

/-- The first free place of a search from place `i` on.  Ten neighbouring places are tried if the
table has them, else one; then the search leaps, at first by the higher digits of the code. -/
def freePlace (t : Table) : Nat → Nat → Nat → Nat
  | 0, i, _ => i
  | fuel + 1, i, rest =>
    let near := if i + 9 < t.size then (List.range 10).map (i + ·) else [i]
    match near.find? (isFree t) with
    | some j => j
    | none => freePlace t fuel ((i * 5 + 1 + rest / 32) % t.size) (rest / 32)

def insert (t : Table) (code : Int) (v : Value) : Table :=
  let word := (code % 18446744073709551616).toNat
  t.setIfInBounds (freePlace t (t.size + 64) (word % t.size) word) (some v)

def arranged (members : List Value) : List Value :=
  match members.mapM code? with
  | none => members
  | some codes =>
    let table := (codes.zip members).foldl (fun t (code, v) => insert t code v)
      (Array.replicate (tableSize members.length) none)
    table.toList.filterMap id

end LitNote.Members
