import LitNote.Number.Integer

/-!
Numbers of the binary format with 53 significant bits.  A finite number is a sign, a mantissa and an
exponent of two; every operation rounds one exact ratio to the nearest number, ties to the even
mantissa.
-/

namespace LitNote

/-- A finite number is `mantissa * 2 ^ exponent`, with a mantissa of 53 bits unless the exponent is
the least one. -/
inductive Binary64 where
  | nan
  | infinite (negative : Bool)
  | finite (negative : Bool) (mantissa : Nat) (exponent : Int)
deriving Repr, DecidableEq, Inhabited

namespace Binary64

def leastExponent : Int := -1074

def greatestExponent : Int := 971

/-- The quotient rounded to the nearest integer, a tie to the even one. -/
def roundDiv (num den : Nat) : Nat :=
  let q := num / den
  let r := num % den
  if 2 * r < den then q else if 2 * r > den then q + 1 else q + q % 2

def floorLog2 (num den : Nat) : Int :=
  let k : Int := (num.log2 : Int) - den.log2
  let reached := if k ≥ 0 then den * Nat.pow 2 k.toNat ≤ num else den ≤ num * Nat.pow 2 (-k).toNat
  if reached then k else k - 1

def ofRatio (negative : Bool) (num den : Nat) : Binary64 :=
  if num = 0 then .finite negative 0 leastExponent
  else
    let e := max leastExponent (floorLog2 num den - 52)
    let m := if e ≥ 0 then roundDiv num (den * Nat.pow 2 e.toNat)
      else roundDiv (num * Nat.pow 2 (-e).toNat) den
    let (m, e) := if m = Nat.pow 2 53 then (Nat.pow 2 52, e + 1) else (m, e)
    if e > greatestExponent then .infinite negative else .finite negative m e

def zero : Binary64 := .finite false 0 leastExponent

def ofInt (n : Int) : Binary64 := ofRatio (n < 0) n.natAbs 1

def ofDecimal (negative : Bool) (digits : Nat) (exponent : Int) : Binary64 :=
  let size : Int := (natText digits).length
  if digits = 0 then ofRatio negative 0 1
  else if size + exponent > 400 then .infinite negative
  else if size + exponent < -400 then ofRatio negative 0 1
  else if exponent ≥ 0 then ofRatio negative (digits * Nat.pow 10 exponent.toNat) 1
  else ofRatio negative digits (Nat.pow 10 (-exponent).toNat)

def ratio (mantissa : Nat) (exponent : Int) : Nat × Nat :=
  if exponent ≥ 0 then (mantissa * Nat.pow 2 exponent.toNat, 1)
  else (mantissa, Nat.pow 2 (-exponent).toNat)

def isZero : Binary64 → Bool
  | .finite _ m _ => m == 0
  | _ => false

def toInt? : Binary64 → Option Int
  | .finite negative m e =>
    let (num, den) := ratio m e
    if num % den = 0 then
      some (if negative then -((num / den : Nat) : Int) else ((num / den : Nat) : Int))
    else none
  | _ => none

def truncate : Binary64 → Except Failure Int
  | .nan => .error .notANumber
  | .infinite _ => .error .outOfRange
  | .finite negative m e =>
    let (num, den) := ratio m e
    .ok (if negative then -((num / den : Nat) : Int) else ((num / den : Nat) : Int))

def negate : Binary64 → Binary64
  | .nan => .nan
  | .infinite s => .infinite (!s)
  | .finite s m e => .finite (!s) m e

def signedRatio (negative : Bool) (m : Nat) (e : Int) : Int × Nat :=
  let (num, den) := ratio m e
  (if negative then -(num : Int) else num, den)

def add : Binary64 → Binary64 → Binary64
  | .nan, _ => .nan
  | _, .nan => .nan
  | .infinite s, .infinite t => if s = t then .infinite s else .nan
  | .infinite s, _ => .infinite s
  | _, .infinite t => .infinite t
  | .finite s m e, .finite t n f =>
    let (a, b) := signedRatio s m e
    let (c, d) := signedRatio t n f
    let sum := a * d + c * b
    if sum = 0 then ofRatio (s && t) 0 1 else ofRatio (sum < 0) sum.natAbs (b * d)

def mul : Binary64 → Binary64 → Binary64
  | .nan, _ => .nan
  | _, .nan => .nan
  | .infinite s, y => if y.isZero then .nan else .infinite (s != isNegative y)
  | x, .infinite t => if x.isZero then .nan else .infinite (isNegative x != t)
  | .finite s m e, .finite t n f =>
    let (a, b) := ratio m e
    let (c, d) := ratio n f
    ofRatio (s != t) (a * c) (b * d)
where
  isNegative : Binary64 → Bool
    | .nan => false
    | .infinite s => s
    | .finite s _ _ => s

def divNat (x : Binary64) (n : Nat) : Binary64 :=
  match x with
  | .finite s m e => let (a, b) := ratio m e; ofRatio s a (b * n)
  | other => other

inductive ExactNumber where
  | none
  | infinite (negative : Bool)
  | ratio (num : Int) (den : Nat)

def ExactNumber.ofBinary64 : Binary64 → ExactNumber
  | .nan => .none
  | .infinite s => .infinite s
  | .finite s m e => let (num, den) := signedRatio s m e; .ratio num den

def ExactNumber.same : ExactNumber → ExactNumber → Bool
  | .infinite s, .infinite t => s == t
  | .ratio a b, .ratio c d => a * d == c * b
  | _, _ => false

end Binary64

end LitNote
