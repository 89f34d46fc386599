import LitNote.Number.Shortest
import LitNote.Text.Base64
import LitNote.Text.Casing
import LitNote.Value.Basic
import LitNote.Yaml.Tag

/-!
What scalars mean.  A tag may stand over any text, also over one without the look of the tag, so
that numbers have more forms here than plain scalars show.
-/

namespace LitNote.Yaml.Meaning

def signed (s : Text) : Except Failure (Bool × Text) :=
  match s with
  | [] => .error .noPosition
  | '-' :: rest => .ok (true, rest)
  | '+' :: rest => .ok (false, rest)
  | rest => .ok (false, rest)

def sixtieths (parts : List Int) : Int := parts.foldl (fun n d => n * 60 + d) 0

def unsignedInt (s : Text) : Except Failure Int :=
  match s with
  | ['0'] => .ok 0
  | '0' :: 'b' :: rest => Integer.readBase 2 rest
  | '0' :: 'x' :: rest => Integer.readBase 16 rest
  | '0' :: rest => Integer.readBase 8 ('0' :: rest)
  | [] => .error .noPosition
  | s =>
    if s.has ':' then (Text.splitAtChar ':' s).mapM Integer.read |>.map sixtieths
    else Integer.read s

def withoutBars (s : Text) : Text := s.filter (· != '_')

def int (s : Text) : Except Failure Int := do
  let (negative, rest) ← signed (withoutBars s)
  let n ← unsignedInt rest
  return if negative then -n else n

def decimal (s : Text) : Except Failure Binary64 :=
  let t := Integer.dropPadding s
  let (negative, rest) := Integer.sign t
  if Plain.isWord ["inf", "infinity"] rest then .ok (.infinite negative)
  else if rest == "nan".toList then .ok .nan
  else match Binary64.readDecimal t with
    | some (x, []) => .ok x
    | _ => .error (.noNumber s)

def sumSixtieths : Nat → Binary64 → List Binary64 → Binary64
  | _, sum, [] => sum
  | base, sum, x :: xs => sumSixtieths (base * 60) (sum.add (x.mul (Binary64.ofInt base))) xs

def unsignedFloat (s : Text) : Except Failure Binary64 :=
  if s == ".inf".toList then .ok (.infinite false)
  else if s == ".nan".toList then .ok .nan
  else if s.has ':' then
    ((Text.splitAtChar ':' s).mapM decimal).map fun parts => sumSixtieths 1 .zero parts.reverse
  else decimal s

def float (s : Text) : Except Failure Binary64 := do
  let (negative, rest) ← signed (Text.toLower (withoutBars s))
  let x ← unsignedFloat rest
  return if negative then x.negate else x

def isNan (s : Text) : Bool :=
  (signed (Text.toLower (withoutBars s))).toOption.any (·.2 == ".nan".toList)

def boolWords : List (String × Bool) :=
  [("yes", true), ("no", false), ("true", true), ("false", false), ("on", true), ("off", false)]

def bool (s : Text) : Except Failure Bool :=
  let s := Text.toLower s
  match boolWords.find? (·.1.toList == s) with
  | some (_, b) => .ok b
  | none => .error (.noKey s)

def number (digits : Text) : Nat := Integer.ofDigits (digits.map fun x => x.toNat - 48)

def date (year month day : Nat) : Except Failure Date :=
  match Date.of? year month day with
  | some d => .ok d
  | none =>
    if year = 0 then .error (.noTime .year)
    else if month = 0 ∨ 12 < month then .error (.noTime .month)
    else .error (.noTime .day)

def timeOfDay (hour minute second micro : Nat) : Except Failure TimeOfDay :=
  match TimeOfDay.of? hour minute second micro with
  | some t => .ok t
  | none =>
    if 24 ≤ hour then .error (.noTime .hour)
    else if 60 ≤ minute then .error (.noTime .minute)
    else .error (.noTime .second)

def micros (places : Text) : Nat := number ((places ++ List.replicate 6 '0').take 6)

def offset (sign : Option Char) (hours minutes : Text) : Except Failure Int :=
  let seconds : Int := number hours * 3600 + number minutes * 60
  if seconds < 86400 then .ok (if sign == some '-' then -seconds else seconds)
  else .error (.noTime .zone)

def timestamp (s : Text) : Except Failure Value := do
  match Plain.stamp? (Plain.withoutBreak s) with
  | none => throw .noForm
  | some t =>
    let day := date (number t.year) (number t.month) (number t.day)
    match t.clock with
    | none => return .date (← day)
    | some (hour, minute, second) => do
      let off ← match t.zone with
        | none => pure none
        | some (sign, hours, minutes) => some <$> offset sign hours minutes
      let time := timeOfDay (number hour) (number minute) (number second) (micros t.places)
      return .moment ⟨← day, ← time, off⟩

def binary (s : Text) : Except Failure Value :=
  if s.any (128 ≤ ·.toNat) then .error .malformedYaml
  else match Text.Base64.decode s with
    | some octets => .ok (.bytes octets)
    | none => .error .malformedYaml

def scalar (tag : Tag) (s : Text) : Except Failure Value :=
  match tag with
  | .null => .ok .null
  | .bool => (bool s).map .bool
  | .int => (int s).map .int
  | .float => (float s).map .float
  | .text => .ok (.text s)
  | .timestamp => timestamp s
  | .binary => binary s
  | _ => .error .malformedYaml

end LitNote.Yaml.Meaning
