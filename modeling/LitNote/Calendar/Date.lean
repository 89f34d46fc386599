import LitNote.Number.Integer

/-!
Calendar dates of the years 1 to 9999, and their count from the first day of year 1.
-/

namespace LitNote

def isLeapYear (year : Nat) : Bool := year % 4 == 0 && (year % 100 != 0 || year % 400 == 0)

def monthLength (year month : Nat) : Nat :=
  if month = 2 then if isLeapYear year then 29 else 28
  else if month = 4 ∨ month = 6 ∨ month = 9 ∨ month = 11 then 30
  else 31

structure Date where
  year : Nat
  month : Nat
  day : Nat
  valid : 1 ≤ year ∧ year ≤ 9999 ∧ 1 ≤ month ∧ month ≤ 12 ∧ 1 ≤ day ∧ day ≤ monthLength year month
deriving Repr, DecidableEq

namespace Date

def of? (year month day : Nat) : Option Date :=
  if h : 1 ≤ year ∧ year ≤ 9999 ∧ 1 ≤ month ∧ month ≤ 12 ∧ 1 ≤ day ∧ day ≤ monthLength year month
  then some ⟨year, month, day, h⟩
  else none

def ofInts? (year month day : Int) : Option Date :=
  if year < 0 ∨ month < 0 ∨ day < 0 then none else of? year.toNat month.toNat day.toNat

instance : Inhabited Date := ⟨⟨1, 1, 1, by decide⟩⟩

def daysBeforeYear (year : Nat) : Nat :=
  let y := year - 1
  y * 365 + y / 4 - y / 100 + y / 400

def daysBeforeMonth (year month : Nat) : Nat :=
  (List.range (month - 1)).foldl (fun days i => days + monthLength year (i + 1)) 0

def dayNumber (d : Date) : Nat := daysBeforeYear d.year + daysBeforeMonth d.year d.month + d.day - 1

/-- The month and day of the day that lies `n` days after the start of the given month.  The first
argument counts the months that may still be tried. -/
def monthFrom (year : Nat) : Nat → Nat → Nat → Nat × Nat
  | 0, month, n => (month, n + 1)
  | fuel + 1, month, n =>
    if n < monthLength year month then (month, n + 1)
    else monthFrom year fuel (month + 1) (n - monthLength year month)

def ofDayNumber? (n : Int) : Option Date :=
  if n < 0 ∨ n > 3652058 then none
  else
    let n := n.toNat
    let guess := n / 366 + 1
    let year := (List.range 30).foldl
      (fun y _ => if daysBeforeYear (y + 1) ≤ n then y + 1 else y) guess
    let (month, day) := monthFrom year 11 1 (n - daysBeforeYear year)
    of? year month day

/-- Monday is 0. -/
def weekday (d : Date) : Nat := d.dayNumber % 7

def monthNames : List String :=
  ["January", "February", "March", "April", "May", "June", "July", "August", "September",
    "October", "November", "December"]

def weekdayNames : List String :=
  ["Monday", "Tuesday", "Wednesday", "Thursday", "Friday", "Saturday", "Sunday"]

def monthName (d : Date) : Text := (monthNames.getD (d.month - 1) "").toList

def weekdayName (d : Date) : Text := (weekdayNames.getD d.weekday "").toList

def text (d : Date) : Text :=
  paddedNat 4 d.year ++ '-' :: paddedNat 2 d.month ++ '-' :: paddedNat 2 d.day

end Date

end LitNote
