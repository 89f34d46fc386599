import LitNote.Calendar.Written
import LitNote.Value.Elements
import LitNote.Value.Plain

/-!
Values as dates, and dates in the styles of the `date` formatter.
-/

namespace LitNote.Template

def firstOf? : Value → Option Value
  | .list (x :: _) => some x
  | .tuple (x :: _) => some x
  | .text (c :: _) => some (.text [c])
  | .record es => (es.find? fun (k, _) => k.sameKey (.int 0)).map (·.2)
  | _ => none

def datePartsOf? (parts : Value) : Option (List Value) := do
  let first ← firstOf? parts
  match first with
  | .list xs => some xs
  | .tuple xs => some xs
  | .text s => some (s.map fun c => .text [c])
  | .record es => some (es.map (·.1))
  | _ => none

def ofDateParts? (parts : Value) : Option Date := do
  let ints ← (← datePartsOf? parts).mapM fun v => v.integer.toOption
  let orFirst := fun (n : Int) => if n = 0 then 1 else n
  match ints with
  | [] => none
  | [y] => Date.ofInts? y 1 1
  | [y, m] => Date.ofInts? y (orFirst m) 1
  | y :: m :: d :: _ => Date.ofInts? y (orFirst m) (orFirst d)

def atMidnight (d : Date) : Moment := ⟨d, .midnight, none⟩

/-- The moment that a value denotes.  Numbers are milliseconds since the start of 1970. -/
def momentOf? : Value → Option Moment
  | .moment m => some m
  | .date d => some (atMidnight d)
  | .int n => Moment.ofEpochMillis? (Binary64.ofRatio (n < 0) n.natAbs 1000)
  | .float x => Moment.ofEpochMillis? (x.divNat 1000)
  | .record es =>
    let parts := Record.field es "date-parts"
    if parts.isSet then (ofDateParts? parts).map atMidnight else none
  | .text s => if s.all Text.isBlank then none else Moment.ofWritten? s
  | _ => none

/-- The year as it is, then month, day and time to the millisecond by universal time. -/
def isoText? (m : Moment) : Option Text := do
  if m.offset.any fun off => 86400 ≤ off.natAbs then none
  let u ← m.universal?
  return natText u.date.year ++ '-' :: paddedNat 2 u.date.month ++ '-' :: paddedNat 2 u.date.day
    ++ 'T' :: u.time.clock ++ '.' :: paddedNat 3 (u.time.micro / 1000) ++ ['Z']

def longText (d : Date) : Text :=
  d.weekdayName ++ ", ".toList ++ d.monthName ++ ' ' :: natText d.day ++ ", ".toList
    ++ natText d.year

def shortText (d : Date) : Text :=
  natText d.month ++ '/' :: natText d.day ++ '/' :: natText d.year

def styled? (style : Text) (m : Moment) : Option Text :=
  if style = "iso".toList then isoText? m
  else if style = "long".toList then some (longText m.date)
  else if style = "year".toList then some (natText m.date.year)
  else if style = "month".toList then some (natText m.date.month)
  else if style = "day".toList then some (natText m.date.day)
  else some (shortText m.date)

end LitNote.Template
