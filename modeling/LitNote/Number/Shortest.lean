import LitNote.Number.Binary64

/-!
Decimal notations of binary numbers: the fewest digits that read back, and a fixed number of places.
-/

namespace LitNote.Binary64

/-- The exponent of the greatest power of ten that is at most `num / den`.  The first argument
bounds the search among negative exponents. -/
def floorLog10 (num den : Nat) : Int :=
  if den ≤ num then (natText (num / den)).length - 1 else below 400 num 0
where
  below : Nat → Nat → Int → Int
    | 0, _, k => k
    | fuel + 1, num, k => if den ≤ num then k else below fuel (num * 10) (k - 1)

/-- The digits nearest to `num / den` among those with `count` digits that read back as the number,
and the power of ten of their last digit. -/
def nearestOn (mantissa : Nat) (exponent : Int) (num den : Nat) (top : Int) (count : Nat) :
    Option (Nat × Int) :=
  let unit : Int := top - count + 1
  let (n, d) :=
    if unit ≥ 0 then (num, den * Nat.pow 10 unit.toNat) else (num * Nat.pow 10 (-unit).toNat, den)
  let low := n / d
  let rest := n % d
  let readsBack := fun digits => ofDecimal false digits unit == .finite false mantissa exponent
  let nearer := if 2 * rest < d then low else if 2 * rest > d then low + 1 else low + low % 2
  let other := if nearer = low then low + 1 else low
  if readsBack nearer then some (nearer, unit)
  else if readsBack other then some (other, unit)
  else none

def shortestDigits (mantissa : Nat) (exponent : Int) : Nat × Int :=
  let (num, den) := ratio mantissa exponent
  let top := floorLog10 num den
  ((List.range 17).findSome? fun i => nearestOn mantissa exponent num den top (i + 1)).getD (0, 0)

def dropZeros : Nat → Nat → Int → Nat × Int
  | 0, digits, unit => (digits, unit)
  | fuel + 1, digits, unit =>
    if digits ≠ 0 ∧ digits % 10 = 0 then dropZeros fuel (digits / 10) (unit + 1) else (digits, unit)

/-- Positional from `1e-4` up to `1e16`, with a point in any case; beyond, one digit before the
point and an exponent of at least two digits. -/
def decimalText (digits : Nat) (unit : Int) : Text :=
  let (digits, unit) := dropZeros 20 digits unit
  let ds := natText digits
  let top : Int := unit + ds.length - 1
  if -4 ≤ top ∧ top < 16 then
    if unit ≥ 0 then ds ++ List.replicate unit.toNat '0' ++ ['.', '0']
    else
      let places := (-unit).toNat
      if places < ds.length then ds.take (ds.length - places) ++ '.' :: ds.drop (ds.length - places)
      else '0' :: '.' :: List.replicate (places - ds.length) '0' ++ ds
  else
    let mantissa := match ds with
      | [d] => [d]
      | d :: more => d :: '.' :: more
      | [] => []
    mantissa ++ 'e' :: (if top < 0 then '-' else '+') :: paddedNat 2 top.natAbs

def signText (negative : Bool) : Text := if negative then ['-'] else []

def text : Binary64 → Text
  | .nan => "nan".toList
  | .infinite s => signText s ++ "inf".toList
  | .finite s m e =>
    if m = 0 then signText s ++ "0.0".toList
    else
      let (digits, unit) := shortestDigits m e
      signText s ++ decimalText digits unit

def fixed (places : Nat) : Binary64 → Text
  | .nan => "nan".toList
  | .infinite s => signText s ++ "inf".toList
  | .finite s m e =>
    let (num, den) := ratio m e
    let digits := paddedNat (places + 1) (roundDiv (num * Nat.pow 10 places) den)
    let whole := digits.take (digits.length - places)
    signText s ++ if places = 0 then whole else whole ++ '.' :: digits.drop (digits.length - places)

/-- How numbers appear in rendered text: integral ones without a point. -/
def plainText : Binary64 → Text
  | .nan => "NaN".toList
  | .infinite s => signText s ++ "Infinity".toList
  | x => match x.toInt? with
    | some n => Integer.text n
    | none => x.text

def readDigits (s : Text) : List Nat × Text := Integer.spanDigits s

def readExponent : Text → Int × Text
  | c :: rest =>
    if c == 'e' || c == 'E' then
      let (negative, after) := Integer.sign rest
      match readDigits after with
      | ([], _) => (0, c :: rest)
      | (ds, after) =>
        let n : Int := Integer.ofDigits ds
        (if negative then -n else n, after)
    else (0, c :: rest)
  | [] => (0, [])

def readDecimal (s : Text) : Option (Binary64 × Text) :=
  let (negative, rest) := Integer.sign s
  let (whole, rest) := readDigits rest
  let (places, rest) := match rest with
    | '.' :: more =>
      let (ds, after) := readDigits more
      if whole.isEmpty && ds.isEmpty then ([], rest) else (ds, after)
    | _ => ([], rest)
  if whole.isEmpty && places.isEmpty then none
  else
    let (exponent, rest) := readExponent rest
    some (ofDecimal negative (Integer.ofDigits (whole ++ places)) (exponent - places.length), rest)

end LitNote.Binary64
