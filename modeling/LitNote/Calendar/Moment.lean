import LitNote.Calendar.Date
import LitNote.Number.Binary64

/-!
A date with a time of day, and perhaps the distance of its clock from universal time.
-/

namespace LitNote

structure TimeOfDay where
  hour : Nat
  minute : Nat
  second : Nat
  micro : Nat
  valid : hour < 24 ∧ minute < 60 ∧ second < 60 ∧ micro < 1000000
deriving Repr, DecidableEq

instance : Inhabited TimeOfDay := ⟨⟨0, 0, 0, 0, by decide⟩⟩

namespace TimeOfDay

def of? (hour minute second micro : Nat) : Option TimeOfDay :=
  if h : hour < 24 ∧ minute < 60 ∧ second < 60 ∧ micro < 1000000 then
    some ⟨hour, minute, second, micro, h⟩
  else none

def midnight : TimeOfDay := default

def seconds (t : TimeOfDay) : Nat := t.hour * 3600 + t.minute * 60 + t.second

def clock (t : TimeOfDay) : Text :=
  paddedNat 2 t.hour ++ ':' :: paddedNat 2 t.minute ++ ':' :: paddedNat 2 t.second

def text (t : TimeOfDay) : Text :=
  if t.micro = 0 then t.clock else t.clock ++ '.' :: paddedNat 6 t.micro

end TimeOfDay

/-- The offset is in seconds, positive to the east. -/
structure Moment where
  date : Date
  time : TimeOfDay
  offset : Option Int
deriving Repr, DecidableEq, Inhabited

namespace Moment

def ofSeconds? (day seconds : Int) (micro : Nat) (offset : Option Int) : Option Moment := do
  let date ← Date.ofDayNumber? (day + Int.fdiv seconds 86400)
  let s := (Int.fmod seconds 86400).toNat
  let time ← TimeOfDay.of? (s / 3600) (s / 60 % 60) (s % 60) micro
  return ⟨date, time, offset⟩

def universal? (m : Moment) : Option Moment :=
  match m.offset with
  | none => some { m with offset := some 0 }
  | some off => ofSeconds? m.date.dayNumber ((m.time.seconds : Int) - off) m.time.micro (some 0)

def epochDay : Int := 719162

def ofEpochMillis? (seconds : Binary64) : Option Moment :=
  match seconds with
  | .finite negative m e =>
    let (num, den) := Binary64.ratio m e
    let whole := num / den
    let product := (Binary64.ofRatio false (num % den) den).mul (Binary64.ofInt 1000000)
    let micros := match product with
      | .finite _ pm pe => let (a, b) := Binary64.ratio pm pe; Binary64.roundDiv a b
      | _ => 0
    let total : Int := (whole : Int) * 1000000 + micros
    let total := if negative then -total else total
    ofSeconds? epochDay (Int.fdiv total 1000000) (Int.fmod total 1000000).toNat (some 0)
  | _ => none

def offsetText (off : Int) : Text :=
  let n := off.natAbs
  let hm := (if off < 0 then '-' else '+') :: paddedNat 2 (n / 3600)
    ++ ':' :: paddedNat 2 (n / 60 % 60)
  if n % 60 = 0 then hm else hm ++ ':' :: paddedNat 2 (n % 60)

def textWith (sep : Char) (m : Moment) : Text :=
  m.date.text ++ sep :: m.time.text ++ (m.offset.map offsetText).getD []

def text (m : Moment) : Text := m.textWith ' '

def universalSeconds (m : Moment) : Int :=
  (m.date.dayNumber : Int) * 86400 + m.time.seconds - m.offset.getD 0

/-- Moments are the same key if both have an offset or neither has, and they name one instant. -/
def sameInstant (a b : Moment) : Bool :=
  a.offset.isSome == b.offset.isSome && a.universalSeconds == b.universalSeconds
    && a.time.micro == b.time.micro

def digitsOf : Nat → Text → Option (Nat × Text)
  | 0, s => some (0, s)
  | width + 1, s => do
    let (high, s) ← digitsOf width s
    match s with
    | c :: rest => if Text.isAsciiDigit c then some (high * 10 + (c.toNat - 48), rest) else none
    | [] => none

def expect (c : Char) : Text → Option Text
  | d :: rest => if c == d then some rest else none
  | [] => none

def readDate (s : Text) : Option (Date × Text) := do
  let (year, s) ← digitsOf 4 s
  let (month, s) ← digitsOf 2 (← expect '-' s)
  let (day, s) ← digitsOf 2 (← expect '-' s)
  return (← Date.of? year month day, s)

def readMicro : Text → Option (Nat × Text)
  | '.' :: rest => digitsOf 6 rest
  | rest => some (0, rest)

def readOffset : Text → Option (Option Int)
  | [] => some none
  | ['Z'] => some (some 0)
  | c :: rest => do
    let (h, s) ← digitsOf 2 rest
    let (m, s) ← digitsOf 2 (← expect ':' s)
    let (sec, s) ← match s with
      | ':' :: more => digitsOf 2 more
      | more => some (0, more)
    if !s.isEmpty then none
    let n : Int := h * 3600 + m * 60 + sec
    if c == '-' then return some (-n) else if c == '+' then return some n else none

def ofIso? (s : Text) : Option Moment := do
  let (date, s) ← readDate s
  let s ← match s with
    | _ :: rest => some rest
    | [] => none
  let (hour, s) ← digitsOf 2 s
  let (minute, s) ← digitsOf 2 (← expect ':' s)
  let (second, s) ← digitsOf 2 (← expect ':' s)
  let (micro, s) ← readMicro s
  let time ← TimeOfDay.of? hour minute second micro
  return ⟨date, time, ← readOffset s⟩

end Moment

def Date.ofIso? (s : Text) : Option Date :=
  match Moment.readDate s with
  | some (d, []) => some d
  | _ => none

end LitNote
