import LitNote.Calendar.Moment
import LitNote.Calendar.WrittenToken

/-!
Dates as people write them: numbers and month names in almost any order, times of day, zones.  Month
comes before day where nothing tells them apart, a missing month or day is the first, and a year of
two digits lies within fifty years of 2025.
-/

namespace LitNote.Written

def lookUp (table : List (List String)) (word : Text) : Option Nat :=
  let low := Text.toLower word
  table.findIdx? fun spellings => spellings.any fun s => s.toList == low

def weekday? : Text → Option Nat :=
  lookUp [["mon", "monday"], ["tue", "tuesday"], ["wed", "wednesday"], ["thu", "thursday"],
    ["fri", "friday"], ["sat", "saturday"], ["sun", "sunday"]]

def month? (word : Text) : Option Nat :=
  (lookUp [["jan", "january"], ["feb", "february"], ["mar", "march"], ["apr", "april"], ["may"],
    ["jun", "june"], ["jul", "july"], ["aug", "august"], ["sep", "sept", "september"],
    ["oct", "october"], ["nov", "november"], ["dec", "december"]] word).map (· + 1)

def unit? : Text → Option Nat :=
  lookUp [["h", "hour", "hours"], ["m", "minute", "minutes"], ["s", "second", "seconds"]]

def halfDay? : Text → Option Nat := lookUp [["am", "a"], ["pm", "p"]]

def isUniversal (word : Text) : Bool := (lookUp [["utc"], ["gmt"], ["z"]] word).isSome

def isFiller (word : Text) : Bool :=
  (lookUp [[" "], ["."], [","], [";"], ["-"], ["/"], ["'"], ["at"], ["on"], ["and"], ["ad"], ["m"],
    ["t"], ["of"], ["st"], ["nd"], ["rd"], ["th"]] word).isSome

def isToken (token : Option Text) (s : String) : Bool := token == some s.toList

structure Number where
  num : Nat
  places : Nat
deriving Repr, DecidableEq, Inhabited

namespace Number

def unit (x : Number) : Nat := Nat.pow 10 x.places

def whole (x : Number) : Nat := x.num / x.unit

def precision : Nat := 28

/-- The nearest number that has no more than the significant digits, of two the even one. -/
def rounded (x : Number) : Number :=
  let excess := (Nat.toDigits 10 x.num).length - precision
  ⟨Binary64.roundDiv x.num (Nat.pow 10 excess), x.places - excess⟩

def fraction? (x : Number) : Option Number :=
  if Nat.pow 10 precision ≤ x.whole then none else some (rounded ⟨x.num % x.unit, x.places⟩)

/-- Sixty times a fraction, without its own fraction; nothing if there is no fraction. -/
def sixtieths (x : Number) : Option Nat :=
  if x.num = 0 then none else some (rounded ⟨60 * x.num, x.places⟩).whole

def ofText? (s : Text) : Option Number :=
  let (whole, rest) := Integer.spanDigits s
  match rest with
  | [] => if whole.isEmpty then none else some ⟨Integer.ofDigits whole, 0⟩
  | '.' :: rest =>
    match Integer.spanDigits rest with
    | (places, []) =>
      if whole.isEmpty && places.isEmpty then none
      else some ⟨Integer.ofDigits (whole ++ places), places.length⟩
    | _ => none
  | _ => none

end Number

def isNoAmount (word : Text) : Bool :=
  (lookUp [["nan"], ["inf"], ["infinity"]] word).isSome

def natOf? (s : Text) : Option Nat :=
  match Integer.read s with
  | .ok n => if n < 0 then none else some n.toNat
  | .error _ => none

def isDigits (s : Text) : Bool := !s.isEmpty && s.all Text.isDigit

def daysIn (year month : Nat) : Nat := monthLength year month

def fullYear (year : Nat) (certain : Bool) : Nat :=
  if year < 100 && !certain then
    let y := year + 2000
    if 2075 ≤ y then y - 100 else if y < 1975 then y + 100 else y
  else year

inductive Part where
  | year
  | month
  | day
deriving Repr, DecidableEq, Inhabited

structure Parts where
  values : List Nat
  certain : Bool
  yearAt : Option Nat
  monthAt : Option Nat
  dayAt : Option Nat
deriving Repr, DecidableEq, Inhabited

namespace Parts

def empty : Parts := ⟨[], false, none, none, none⟩

def size (p : Parts) : Nat := p.values.length

def place (p : Parts) : Part → Option Nat
  | .year => p.yearAt
  | .month => p.monthAt
  | .day => p.dayAt

def setPlace (p : Parts) (i : Nat) : Part → Parts
  | .year => { p with yearAt := some i }
  | .month => { p with monthAt := some i }
  | .day => { p with dayAt := some i }

def push (p : Parts) (n : Nat) (part : Option Part) : Option Parts :=
  let added := { p with values := p.values ++ [n] }
  match part with
  | none => some added
  | some part => if (p.place part).isSome then none else some (added.setPlace p.size part)

def pushYear (p : Parts) (n : Nat) (part : Option Part) : Option Parts :=
  if part = none ∨ part = some .year then push { p with certain := true } n (some .year) else none

def pushText (p : Parts) (s : Text) (part : Option Part) : Option Parts := do
  if isDigits s && 2 < s.length then p.pushYear (← natOf? s) part
  else p.push (← natOf? s) part

/-- Adds an amount; above a hundred it is a year. -/
def pushNumber (p : Parts) (x : Number) : Option Parts :=
  if 100 * x.unit < x.num then p.pushYear x.whole none else p.push x.whole none

def pushMonth (p : Parts) (n : Nat) : Option Parts := p.push n (some .month)

def at? (p : Parts) (i : Option Nat) : Option Nat := i.bind (p.values[·]?)

def couldBeDay (p : Parts) (x : Number) : Bool :=
  let most := match p.at? p.monthAt, p.at? p.yearAt with
    | none, _ => 31
    | some month, none => daysIn 2000 month
    | some month, some year => daysIn year month
  p.dayAt.isNone && x.unit ≤ x.num && x.num ≤ most * x.unit

def byPlace (p : Parts) : Option Nat × Option Nat × Option Nat :=
  (p.at? p.yearAt, p.at? p.monthAt, p.at? p.dayAt)

def missingPlace (p : Parts) : Option Nat :=
  [0, 1, 2].find? fun i =>
    p.yearAt ≠ some i ∧ p.monthAt ≠ some i ∧ p.dayAt ≠ some i

def knownCount (p : Parts) : Nat :=
  ([p.yearAt, p.monthAt, p.dayAt].filter Option.isSome).length

def completed (p : Parts) : Parts :=
  let i := p.missingPlace
  if p.yearAt.isNone then { p with yearAt := i }
  else if p.monthAt.isNone then { p with monthAt := i }
  else { p with dayAt := i }

def ofOne (month : Option Nat) (other : Nat) : Option Nat × Option Nat × Option Nat :=
  if 31 < other then (some other, month, none) else (none, month, some other)

def ofTwo (a b : Nat) : Option Nat × Option Nat × Option Nat :=
  if 31 < a then (some a, some b, none)
  else if 31 < b then (some b, some a, none)
  else (none, some a, some b)

def ofThree (monthAt yearAt : Option Nat) (a b c : Nat) : Option Nat × Option Nat × Option Nat :=
  match monthAt with
  | some 0 => if 31 < b then (some b, some a, some c) else (some c, some a, some b)
  | some 1 => if 31 < a then (some a, some b, some c) else (some c, some b, some a)
  | some _ => if 31 < b then (some b, some c, some a) else (some a, some c, some b)
  | none =>
    if 31 < a ∨ yearAt = some 0 then (some a, some b, some c)
    else if 12 < a then (some c, some b, some a)
    else (some c, some a, some b)

def resolve (p : Parts) : Option (Option Nat × Option Nat × Option Nat) :=
  if p.size = p.knownCount then some p.byPlace
  else if p.size = 3 ∧ p.knownCount = 2 then some p.completed.byPlace
  else match p.values with
    | [a] => some (if p.monthAt.isSome then (none, some a, none) else ofOne none a)
    | [a, b] =>
      match p.monthAt with
      | some 0 => some (ofOne (some a) b)
      | some _ => some (ofOne (some b) a)
      | none => some (ofTwo a b)
    | [a, b, c] => some (ofThree p.monthAt p.yearAt a b c)
    | _ => none

end Parts

structure Draft where
  parts : Parts
  weekday : Option Nat
  hour : Option Nat
  minute : Option Nat
  second : Option Nat
  micro : Option Nat
  zone : Option Text
  offset : Option Int
  halfDay : Option Nat
deriving Repr, DecidableEq, Inhabited

namespace Draft

def empty : Draft := ⟨.empty, none, none, none, none, none, none, none, none⟩

def withParts (d : Draft) (p : Parts) : Draft := { d with parts := p }

def seconds? (s : Text) : Option (Nat × Nat) :=
  match Text.cutAt '.' s with
  | (whole, none) => (natOf? whole).map (·, 0)
  | (whole, some places) => do
    let second ← natOf? whole
    let micro ← natOf? ((places ++ List.replicate (6 - places.length) '0').take 6)
    return (second, micro)

def setSeconds (d : Draft) (s : Text) : Option Draft := do
  let (second, micro) ← seconds? s
  return { d with second := some second, micro := some micro }

def setMinutes (d : Draft) (x : Number) : Option Draft :=
  x.fraction?.map fun part => { d with minute := some x.whole, second := part.sixtieths }

def setUnit (d : Draft) (s : Text) (x : Number) (unit : Nat) : Option Draft :=
  match unit with
  | 0 => x.fraction?.map fun part =>
    { d with hour := some x.whole, minute := part.sixtieths <|> d.minute }
  | 1 => d.setMinutes x
  | 2 => d.setSeconds s
  | _ => some d

def hourOf (hour half : Nat) : Nat :=
  if hour < 12 ∧ half = 1 then hour + 12 else if hour = 12 ∧ half = 0 then 0 else hour

def mayBeZone (d : Draft) (offset : Option Int) (word : Text) : Bool :=
  d.hour.isSome && d.zone.isNone && offset.isNone && word.length ≤ 5
    && (word.all (fun c => 65 ≤ c.toNat && c.toNat ≤ 90) || word == ['z'])

end Draft

abbrev Tokens := List Text

def unitAt? (ts : Tokens) (i : Nat) : Option (Nat × Nat) :=
  let unit := fun (j : Nat) => (ts[j]?).bind unit?
  match unit (i + 1) with
  | some u => some (i + 1, u)
  | none =>
    match if isToken ts[i + 1]? " " then unit (i + 2) else none with
    | some u => some (i + 2, u)
    | none =>
      match if 0 < i then unit (i - 1) else none with
      | some u => some (i, u + 1)
      | none =>
        match if 1 < i ∧ i + 1 = ts.length ∧ isToken ts[i - 1]? " " then unit (i - 2) else none with
        | some u => some (i, u + 1)
        | none => none

def findsPointAt (s : Text) (i : Nat) : Bool := s.findIdx? (· == '.') == some i

def runTogether (d : Draft) (s : Text) : Option Draft := do
  let p ← d.parts.pushText (s.take 4) (some .year)
  let p ← p.pushText ((s.drop 4).take 2) none
  let p ← p.pushText ((s.drop 6).take 2) none
  let d := d.withParts p
  if s.length ≤ 8 then return d
  let hour ← natOf? ((s.drop 8).take 2)
  let minute ← natOf? ((s.drop 10).take 2)
  let d := { d with hour := some hour, minute := some minute }
  if s.length ≤ 12 then return d
  return { d with second := some (← natOf? (s.drop 12)) }

def sixDigits (d : Draft) (s : Text) : Option Draft := do
  if d.parts.values.isEmpty && !s.any (· == '.') then
    let p ← d.parts.pushText (s.take 2) none
    let p ← p.pushText ((s.drop 2).take 2) none
    let p ← p.pushText (s.drop 4) none
    return d.withParts p
  else
    let hour ← natOf? (s.take 2)
    let minute ← natOf? ((s.drop 2).take 2)
    Draft.setSeconds { d with hour := some hour, minute := some minute } (s.drop 4)

def colonTime (d : Draft) (ts : Tokens) (i : Nat) (x : Number) : Option (Nat × Draft) := do
  let minutes ← Number.ofText? (← ts[i + 2]?)
  let d ← Draft.setMinutes { d with hour := some x.whole } minutes
  match isToken ts[i + 3]? ":", ts[i + 4]? with
  | true, some s => return (i + 4, ← d.setSeconds s)
  | _, _ => return (i + 2, d)

def markedDate (d : Draft) (ts : Tokens) (i : Nat) (s : Text) : Option (Nat × Draft) := do
  let p ← d.parts.pushText s none
  match ts[i + 2]? with
  | none => return (i + 1, d.withParts p)
  | some second =>
    if isFiller second then return (i + 1, d.withParts p)
    let p ← if isDigits second then p.pushText second none else p.pushMonth (← month? second)
    if i + 3 < ts.length && ts[i + 3]? == ts[i + 1]? then
      let third ← ts[i + 4]?
      let p ← match month? third with
        | some m => p.pushMonth m
        | none => p.pushText third none
      return (i + 4, d.withParts p)
    else return (i + 2, d.withParts p)

def readNumber (d : Draft) (ts : Tokens) (i : Nat) (s : Text) (x : Number) :
    Option (Nat × Draft) := do
  let next := ts[i + 1]?
  let size := s.length
  let ends := next.isNone
  if d.parts.size = 3 ∧ (size = 2 ∨ size = 4) ∧ d.hour = none
      ∧ (ends ∨ (!isToken next ":" ∧ (next.bind unit?).isNone)) then
    let d := { d with hour := some (← natOf? (s.take 2)) }
    if size = 4 then return (i, { d with minute := some (← natOf? (s.drop 2)) }) else return (i, d)
  else if size = 6 ∨ (6 < size ∧ findsPointAt s 6) then return (i, ← sixDigits d s)
  else if size = 8 ∨ size = 12 ∨ size = 14 then return (i, ← runTogether d s)
  else match unitAt? ts i with
  | some (j, unit) => return (j, ← d.setUnit s x unit)
  | none =>
    if i + 2 < ts.length ∧ isToken next ":" then colonTime d ts i x
    else if isToken next "-" || isToken next "/" || isToken next "." then markedDate d ts i s
    else if ends ∨ next.any isFiller then
      match (ts[i + 2]?).bind halfDay? with
      | some half => return (i + 2, { d with hour := some (Draft.hourOf x.whole half) })
      | none => return (i + 1, d.withParts (← d.parts.pushNumber x))
    else match next.bind halfDay? with
      | some half =>
        if x.num < 24 * x.unit then
          return (i + 1, { d with hour := some (Draft.hourOf x.whole half) })
        else if d.parts.couldBeDay x then return (i, d.withParts (← d.parts.pushNumber x))
        else none
      | none =>
        if d.parts.couldBeDay x then return (i, d.withParts (← d.parts.pushNumber x)) else none

def readMonth (d : Draft) (ts : Tokens) (i : Nat) (month : Nat) : Option (Nat × Draft) := do
  let p ← d.parts.pushMonth month
  let next := ts[i + 1]?
  if isToken next "-" || isToken next "/" then
    let p ← p.pushText (← ts[i + 2]?) none
    if i + 3 < ts.length && ts[i + 3]? == next then
      return (i + 4, d.withParts (← p.pushText (← ts[i + 4]?) none))
    else return (i + 2, d.withParts p)
  else if i + 4 < ts.length ∧ isToken next " " ∧ isToken ts[i + 3]? " "
      ∧ (ts[i + 2]?).any (fun w => Text.toLower w == "of".toList) then
    match ts[i + 4]? with
    | some s =>
      if isDigits s then
        let year := fullYear (← natOf? s) false
        return (i + 4, d.withParts (← p.pushText (natText year) (some .year)))
      else return (i + 4, d.withParts p)
    | none => return (i + 4, d.withParts p)
  else return (i, d.withParts p)

def readHalfDay (d : Draft) (half : Nat) : Option Draft := do
  let hour ← d.hour
  if 12 < hour then none
  else return { d with hour := some (Draft.hourOf hour half), halfDay := some half }

def flipSign (token : Text) : Text := if token == ['+'] then ['-'] else ['+']

def isSign (token : Option Text) : Bool := isToken token "+" || isToken token "-"

/-- Reads the name of a zone.  A sign after it counts the other way round, as the tokens that come
along show. -/
def readZone (d : Draft) (ts : Tokens) (i : Nat) (word : Text) : Draft × Tokens :=
  let offset := if word == ['z'] then some 0 else none
  if isSign ts[i + 1]? then
    ({ d with zone := if isUniversal word then none else some word, offset := none },
      ts.modify (i + 1) flipSign)
  else ({ d with zone := some word, offset := offset }, ts)

def readOffset (d : Draft) (ts : Tokens) (i : Nat) (negative : Bool) : Option (Nat × Draft) := do
  let s ← ts[i + 1]?
  let (hours, minutes, i) ←
    if s.length = 4 then do pure (← natOf? (s.take 2), ← natOf? (s.drop 2), i)
    else if isToken ts[i + 2]? ":" then do pure (← natOf? s, ← natOf? (← ts[i + 3]?), i + 2)
    else if s.length ≤ 2 then do pure (← natOf? s, 0, i)
    else none
  let n : Int := hours * 3600 + minutes * 60
  let d := { d with offset := some (if negative then -n else n) }
  let name := (ts[i + 4]?).getD []
  if i + 5 < ts.length ∧ (ts[i + 2]?).any isFiller ∧ isToken ts[i + 3]? "(" ∧ isToken ts[i + 5]? ")"
      ∧ 3 ≤ name.length ∧ d.mayBeZone none name then
    return (i + 5, { d with zone := some name })
  else return (i + 1, d)

/-- Reads one token and what belongs to it; gives the place of the last token used. -/
def readToken (d : Draft) (ts : Tokens) (i : Nat) (token : Text) :
    Option (Nat × Draft × Tokens) := do
  match Number.ofText? token with
  | some x =>
    let (i, d) ← readNumber d ts i token x
    return (i, d, ts)
  | none =>
    if isNoAmount token then none
    if let some w := weekday? token then return (i, { d with weekday := some w }, ts)
    if let some m := month? token then
      let (i, d) ← readMonth d ts i m
      return (i, d, ts)
    if let some half := halfDay? token then return (i, ← readHalfDay d half, ts)
    if d.mayBeZone d.offset token then
      let (d, ts) := readZone d ts i token
      return (i, d, ts)
    if d.hour.isSome && isSign (some token) then
      let (i, d) ← readOffset d ts i (token == ['-'])
      return (i, d, ts)
    if isFiller token then return (i, d, ts) else none

def readTokens : Nat → Draft → Tokens → Nat → Option Draft
  | 0, d, _, _ => some d
  | fuel + 1, d, ts, i =>
    match ts[i]? with
    | none => some d
    | some token => do
      let (i, d, ts) ← readToken d ts i token
      readTokens fuel d ts (i + 1)

def Draft.zoneOffset (d : Draft) : Option Int :=
  match d.zone with
  | some zone => if isUniversal zone then some 0 else d.offset
  | none => d.offset

def Draft.isBlank (d : Draft) : Bool :=
  d.parts.values.isEmpty && d.weekday.isNone && d.hour.isNone && d.minute.isNone && d.second.isNone
    && d.micro.isNone && d.zone.isNone && d.offset.isNone && d.halfDay.isNone

def nextWeekday? (date : Date) (weekday : Nat) : Option Date :=
  Date.ofDayNumber? (date.dayNumber + (7 - date.weekday + weekday) % 7)

def Draft.moment? (d : Draft) : Option Moment := do
  if d.isBlank then none
  let (year, month, day) ← d.parts.resolve
  let year := (year.map fun y => fullYear y d.parts.certain).getD 2000
  let date ← Date.of? year (month.getD 1) (day.getD 1)
  let date ← match d.weekday, day with
    | some w, none => nextWeekday? date w
    | _, _ => some date
  let time ← TimeOfDay.of? (d.hour.getD 0) (d.minute.getD 0) (d.second.getD 0) (d.micro.getD 0)
  let offset := d.zoneOffset
  if offset.any fun off => 86399999913600 < off.natAbs then none
  return ⟨date, time, offset⟩

end Written

def Moment.ofWritten? (s : Text) : Option Moment := do
  let tokens := Written.tokens s
  let draft ← Written.readTokens (tokens.length + 1) .empty tokens 0
  draft.moment?

end LitNote
