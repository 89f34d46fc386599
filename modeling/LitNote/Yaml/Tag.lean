import LitNote.Text.Letter
import LitNote.Text.Basic

/-!
Tags of nodes, and the tag that the look of a plain scalar gives it.
-/

namespace LitNote.Yaml

inductive Tag where
  | null
  | bool
  | int
  | float
  | text
  | timestamp
  | merge
  | value
  | sequence
  | mapping
  | binary
  | set
  | orderedMap
  | pairs
  | other (name : Text)
deriving Repr, DecidableEq, Inhabited

namespace Tag

def shortNames : List (String × Tag) :=
  [("null", null), ("bool", bool), ("int", int), ("float", float), ("str", text),
    ("timestamp", timestamp), ("merge", merge), ("value", value), ("seq", sequence),
    ("map", mapping), ("binary", binary), ("set", set), ("omap", orderedMap), ("pairs", pairs)]

def family : Text := "tag:yaml.org,2002:".toList

def shortName (t : Tag) : Text :=
  match t with
  | other name => name
  | t => ((shortNames.find? (·.2 == t)).map (·.1.toList)).getD []

def ofName (name : Text) : Tag :=
  if family.isPrefixOf name then
    let short := name.drop family.length
    match shortNames.find? fun (s, _) => s.toList == short with
    | some (_, t) => t
    | none => other name
  else other name

end Tag

namespace Plain

def isWord (words : List String) (s : Text) : Bool := words.any (·.toList == s)

def isBool : Text → Bool :=
  isWord ["yes", "Yes", "YES", "no", "No", "NO", "true", "True", "TRUE", "false", "False", "FALSE",
    "on", "On", "ON", "off", "Off", "OFF"]

def isNull : Text → Bool := isWord ["", "~", "null", "Null", "NULL"]

def isDigit (c : Char) : Bool := Text.isAsciiDigit c

def isDigitOrBar (c : Char) : Bool := isDigit c || c == '_'

def isOctal (c : Char) : Bool := (48 ≤ c.toNat && c.toNat ≤ 55) || c == '_'

def isBinary (c : Char) : Bool := c == '0' || c == '1' || c == '_'

def isHex (c : Char) : Bool :=
  isDigitOrBar c || (65 ≤ c.toNat && c.toNat ≤ 70) || (97 ≤ c.toNat && c.toNat ≤ 102)

def unsigned : Text → Text
  | '-' :: rest => rest
  | '+' :: rest => rest
  | s => s

def nonEmpty (p : Char → Bool) (s : Text) : Bool := !s.isEmpty && s.all p

def isSixtieth : Text → Bool
  | [c] => isDigit c
  | [c, d] => 48 ≤ c.toNat && c.toNat ≤ 53 && isDigit d
  | _ => false

def isSexagesimal (first : Text → Bool) (s : Text) : Bool :=
  match Text.splitAtChar ':' s with
  | a :: b :: rest => first a && (b :: rest).all isSixtieth
  | _ => false

def startsNumber (p : Char → Bool) : Text → Bool
  | [] => false
  | c :: rest => p c && rest.all isDigitOrBar

def isNonZero (c : Char) : Bool := isDigit c && c != '0'

def isInt (s : Text) : Bool :=
  match unsigned s with
  | ['0'] => true
  | '0' :: 'b' :: rest => nonEmpty isBinary rest
  | '0' :: 'x' :: rest => nonEmpty isHex rest
  | '0' :: rest => nonEmpty isOctal rest
  | rest => startsNumber isNonZero rest || isSexagesimal (startsNumber isNonZero) rest

def isExponent : Text → Bool
  | [] => true
  | e :: sign :: rest =>
    (e == 'e' || e == 'E') && (sign == '+' || sign == '-') && nonEmpty isDigit rest
  | _ => false

def isPointed (s : Text) : Bool :=
  match Text.cutAt '.' s with
  | (whole, some rest) => startsNumber isDigit whole && isExponent (rest.dropWhile isDigitOrBar)
  | _ => false

def isFraction : Text → Bool
  | '.' :: c :: rest => isDigit c && isExponent (rest.dropWhile isDigitOrBar)
  | _ => false

def isSexagesimalFloat (s : Text) : Bool :=
  match Text.cutAt '.' s with
  | (whole, some places) =>
    isSexagesimal (startsNumber isDigit) whole && places.all isDigitOrBar
  | _ => false

def isFloat (s : Text) : Bool :=
  isPointed (unsigned s) || isFraction s || isSexagesimalFloat (unsigned s)
    || isWord [".inf", ".Inf", ".INF"] (unsigned s) || isWord [".nan", ".NaN", ".NAN"] s

def digits? (least most : Nat) (s : Text) : Option (Text × Text) :=
  let ds := (s.take most).takeWhile isDigit
  if ds.length < least then none else some (ds, s.drop ds.length)

def mark? (c : Char) : Text → Option Text
  | d :: rest => if c == d then some rest else none
  | [] => none

def isGap (c : Char) : Bool := c == ' ' || c == '\t'

structure Stamp where
  year : Text
  month : Text
  day : Text
  clock : Option (Text × Text × Text)
  places : Text
  /-- The sign, hours and minutes of the zone; no sign is universal time. -/
  zone : Option (Option Char × Text × Text)
deriving Repr, DecidableEq, Inhabited

def zone? (s : Text) : Option (Option (Option Char × Text × Text)) :=
  if s.isEmpty then some none
  else match s.dropWhile isGap with
    | ['Z'] => some (some (none, [], []))
    | c :: rest =>
      if c == '+' || c == '-' then do
        let (hours, rest) ← digits? 1 2 rest
        match rest with
        | [] => some (some (some c, hours, []))
        | rest => do
          let (minutes, rest) ← digits? 2 2 (← mark? ':' rest)
          if rest.isEmpty then some (some (some c, hours, minutes)) else none
      else none
    | [] => none

def clockStart? : Text → Option Text
  | c :: rest =>
    if c == 'T' || c == 't' then some rest
    else if isGap c then some (rest.dropWhile isGap)
    else none
  | [] => none

/-- Reads a timestamp; a date alone has all its digits when it is to be known by its look. -/
def stamp? (s : Text) : Option Stamp := do
  let (year, rest) ← digits? 4 4 s
  let (month, rest) ← digits? 1 2 (← mark? '-' rest)
  let (day, rest) ← digits? 1 2 (← mark? '-' rest)
  if rest.isEmpty then return ⟨year, month, day, none, [], none⟩
  let (hour, rest) ← digits? 1 2 (← clockStart? rest)
  let (minute, rest) ← digits? 2 2 (← mark? ':' rest)
  let (second, rest) ← digits? 2 2 (← mark? ':' rest)
  let (places, rest) := match rest with
    | '.' :: rest => (rest.takeWhile isDigit, rest.dropWhile isDigit)
    | rest => ([], rest)
  return ⟨year, month, day, some (hour, minute, second), places, ← zone? rest⟩

def isTimestamp (s : Text) : Bool :=
  match stamp? s with
  | some t => t.clock.isSome || (t.month.length == 2 && t.day.length == 2)
  | none => false

/-- A text without the line break at its end.  A line break alone stays. -/
def withoutBreak (s : Text) : Text :=
  if s.getLast? == some '\n' && 1 < s.length then s.dropLast else s

def lineTag (s : Text) : Tag :=
  if isBool s then .bool
  else if isFloat s then .float
  else if isInt s then .int
  else if s == ['<', '<'] then .merge
  else if isNull s then .null
  else if isTimestamp s then .timestamp
  else if s == ['='] then .value
  else .text

/-- The tag that the look of a plain scalar gives it; a line break at its end does not matter. -/
def tag (s : Text) : Tag := lineTag (withoutBreak s)

end Plain

end LitNote.Yaml
