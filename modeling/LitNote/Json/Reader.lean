import LitNote.Number.Shortest
import LitNote.Stack
import LitNote.Value.Basic

/-!
Reading of JSON.  Besides the standard, the words for numbers without a decimal form are read, and
of equal keys the last one counts.  A text that is no JSON is refused at a place that the message
names.
-/

namespace LitNote.Json

inductive Cause where
  | noValue
  | noKey
  | noColon
  | noComma
  | moreText
  | unterminated
  | controlChar
  | badEscape
  | badCode
  | byteOrderMark
  | tooManyDigits (count : Nat)
  | tooDeep
deriving Repr, DecidableEq, Inhabited

/-- Why a text is no JSON, and how many characters were left where that showed. -/
structure Fault where
  cause : Cause
  left : Nat
deriving Repr, DecidableEq, Inhabited

abbrev Result (α : Type) := Except Fault α

def fail {α : Type} (cause : Cause) (rest : Text) : Result α := .error ⟨cause, rest.length⟩

def isSpace (c : Char) : Bool := c == ' ' || c == '\t' || c == '\n' || c == '\r'

def skipSpace (s : Text) : Text := s.dropWhile isSpace

def hexValue? (c : Char) : Option Nat :=
  let n := c.toNat
  if 48 ≤ n ∧ n ≤ 57 then some (n - 48)
  else if 97 ≤ n ∧ n ≤ 102 then some (n - 87)
  else if 65 ≤ n ∧ n ≤ 70 then some (n - 55)
  else none

def hexCode? (a b c d : Char) : Option Nat := do
  return (((← hexValue? a) * 16 + (← hexValue? b)) * 16 + (← hexValue? c)) * 16 + (← hexValue? d)

def charOf (code : Nat) : Char :=
  if 0xD800 ≤ code ∧ code < 0xE000 then Char.ofNat 0xFFFD else Char.ofNat code

def pairOf? (high low : Nat) : Option Char :=
  if 0xD800 ≤ high ∧ high < 0xDC00 ∧ 0xDC00 ≤ low ∧ low < 0xE000 then
    some (Char.ofNat (0x10000 + (high - 0xD800) * 0x400 + (low - 0xDC00)))
  else none

def escaped? (c : Char) : Option Char :=
  match c with
  | '"' => some '"'
  | '\\' => some '\\'
  | '/' => some '/'
  | 'b' => some (Char.ofNat 8)
  | 'f' => some (Char.ofNat 12)
  | 'n' => some '\n'
  | 'r' => some '\r'
  | 't' => some '\t'
  | _ => none

/-- What the code escape at the start of a text stands for: the character, how many characters of
the text it takes, or the fault. -/
def readCode (s : Text) : Result (Char × Nat) :=
  match s with
  | '\\' :: 'u' :: a :: b :: c :: d :: rest =>
    if rest.isEmpty then fail .badCode (s.drop 1)
    else match hexCode? a b c d with
      | none => fail .badCode (s.drop 1)
      | some high =>
        if 0xD800 ≤ high ∧ high < 0xDC00 then
          match rest with
          | '\\' :: 'u' :: e :: f :: g :: h :: _ :: _ =>
            match hexCode? e f g h with
            | none => fail .badCode (rest.drop 1)
            | some low =>
              match pairOf? high low with
              | some c => .ok (c, 12)
              | none => .ok (charOf high, 6)
          | _ => .ok (charOf high, 6)
        else .ok (charOf high, 6)
  | _ => fail .badCode (s.drop 1)

/-- The characters up to the closing quote, and the rest; `opened` counts the characters from the
opening quote on.  The first number counts the characters of the last escape that are still to be
passed over. -/
def readChars (opened : Nat) : Nat → Text → Result (Text × Text)
  | _, [] => .error ⟨.unterminated, opened⟩
  | skip + 1, _ :: rest => readChars opened skip rest
  | 0, '"' :: rest => .ok ([], rest)
  | 0, '\\' :: rest =>
    match rest with
    | [] => .error ⟨.unterminated, opened⟩
    | 'u' :: _ => do
      let (c, length) ← readCode ('\\' :: rest)
      let (s, after) ← readChars opened (length - 1) rest
      return (c :: s, after)
    | e :: _ =>
      match escaped? e with
      | none => fail .badEscape ('\\' :: rest)
      | some c => do
        let (s, after) ← readChars opened 1 rest
        return (c :: s, after)
  | 0, c :: rest =>
    if c.toNat < 32 then fail .controlChar (c :: rest)
    else do
      let (s, after) ← readChars opened 0 rest
      return (c :: s, after)

def readString (rest : Text) : Result (Text × Text) := readChars (rest.length + 1) 0 rest

def spanDigits (s : Text) : Text × Text :=
  (s.takeWhile Text.isAsciiDigit, s.dropWhile Text.isAsciiDigit)

def digitsValue (s : Text) : Nat := Integer.ofDigits (s.map fun c => c.toNat - 48)

def readPlaces : Text → Option (Text × Text)
  | '.' :: c :: rest => if Text.isAsciiDigit c then some (spanDigits (c :: rest)) else none
  | _ => none

def readExponent : Text → Option (Int × Text)
  | c :: rest =>
    if c == 'e' || c == 'E' then
      let (negative, after) := Integer.sign rest
      match spanDigits after with
      | ([], _) => none
      | (ds, after) =>
        let n : Int := digitsValue ds
        some (if negative then -n else n, after)
    else none
  | [] => none

def finishNumber (start : Text) (negative : Bool) (whole after : Text) : Result (Value × Text) :=
  let places := readPlaces after
  let rest := (places.map (·.2)).getD after
  let exponent := readExponent rest
  if places.isNone && exponent.isNone then
    if whole.length > Integer.maxDigits then
      .error ⟨.tooManyDigits whole.length, start.length⟩
    else
      let n : Int := digitsValue whole
      .ok (.int (if negative then -n else n), after)
  else
    let digits := (places.map (·.1)).getD []
    let (e, rest) := exponent.getD (0, rest)
    .ok (.float (Binary64.ofDecimal negative (digitsValue (whole ++ digits)) (e - digits.length)),
      rest)

def readUnsigned (start : Text) (negative : Bool) : Text → Result (Value × Text)
  | [] => fail .noValue start
  | '0' :: rest => finishNumber start negative ['0'] rest
  | c :: rest =>
    if Text.isAsciiDigit c then
      let (whole, after) := spanDigits (c :: rest)
      finishNumber start negative whole after
    else fail .noValue start

def readNumber (s : Text) : Result (Value × Text) :=
  match s with
  | '-' :: rest => readUnsigned s true rest
  | s => readUnsigned s false s

def words : List (Text × Value) :=
  [("null".toList, .null), ("true".toList, .bool true), ("false".toList, .bool false),
    ("NaN".toList, .float .nan), ("Infinity".toList, .float (.infinite false)),
    ("-Infinity".toList, .float (.infinite true))]

def readScalar (s : Text) : Result (Value × Text) :=
  match words.find? fun (word, _) => word.isPrefixOf s with
  | some (word, v) => .ok (v, s.drop word.length)
  | none => readNumber s

def readItems (value : Text → Result (Value × Text)) : Nat → Text → Result (List Value × Text)
  | 0, s => fail .noValue s
  | fuel + 1, s => do
    let (v, rest) ← value s
    match skipSpace rest with
    | ']' :: rest => return ([v], rest)
    | ',' :: rest =>
      let (vs, rest) ← readItems value fuel (skipSpace rest)
      return (v :: vs, rest)
    | rest => fail .noComma rest

def readEntry (value : Text → Result (Value × Text)) (s : Text) :
    Result ((Value × Value) × Text) := do
  match s with
  | '"' :: rest =>
    let (key, rest) ← readString rest
    match skipSpace rest with
    | ':' :: rest =>
      let (v, rest) ← value (skipSpace rest)
      return ((.text key, v), rest)
    | rest => fail .noColon rest
  | s => fail .noKey s

def readEntries (value : Text → Result (Value × Text)) : Nat → Text → Result (Record × Text)
  | 0, s => fail .noKey s
  | fuel + 1, s => do
    let (e, rest) ← readEntry value s
    match skipSpace rest with
    | '}' :: rest => return ([e], rest)
    | ',' :: rest =>
      let (es, rest) ← readEntries value fuel (skipSpace rest)
      return (e :: es, rest)
    | rest => fail .noComma rest

def readArray (value : Text → Result (Value × Text)) (s : Text) : Result (Value × Text) := do
  match skipSpace s with
  | ']' :: rest => return (.list [], rest)
  | s =>
    let (vs, rest) ← readItems value (s.length + 1) s
    return (.list vs, rest)

def readObject (value : Text → Result (Value × Text)) (s : Text) : Result (Value × Text) := do
  match skipSpace s with
  | '}' :: rest => return (.record [], rest)
  | s =>
    let (es, rest) ← readEntries value (s.length + 1) s
    return (.record (Record.ofEntries es), rest)

/-- A value in which containers nest no deeper than the number says. -/
def readValue : Nat → Text → Result (Value × Text)
  | _, '"' :: rest => do
    let (s, rest) ← readString rest
    return (.text s, rest)
  | 0, '[' :: rest => fail .tooDeep rest
  | 0, '{' :: rest => fail .tooDeep rest
  | depth + 1, '[' :: rest => readArray (readValue depth) rest
  | depth + 1, '{' :: rest => readObject (readValue depth) rest
  | _, s => readScalar s

def maxDepth : Nat := Stack.room

def read (s : Text) : Result Value := do
  if s.head? == some (Char.ofNat 0xFEFF) then fail .byteOrderMark s
  let (v, rest) ← readValue maxDepth (skipSpace s)
  match skipSpace rest with
  | [] => return v
  | rest => fail .moreText rest

def Cause.text : Cause → Text
  | .noValue => "Expecting value".toList
  | .noKey => "Expecting property name enclosed in double quotes".toList
  | .noColon => "Expecting ':' delimiter".toList
  | .noComma => "Expecting ',' delimiter".toList
  | .moreText => "Extra data".toList
  | .unterminated => "Unterminated string starting at".toList
  | .controlChar => "Invalid control character at".toList
  | .badEscape => "Invalid \\escape".toList
  | .badCode => "Invalid \\uXXXX escape".toList
  | .byteOrderMark => "Unexpected UTF-8 BOM (decode using utf-8-sig)".toList
  | .tooManyDigits count => Failure.lengthMessage count
  | .tooDeep => "maximum recursion depth exceeded".toList

def placeText (s : Text) (position : Nat) : Text :=
  let before := s.take position
  let line := (before.filter (· == '\n')).length + 1
  let column := (before.reverse.takeWhile (· != '\n')).length + 1
  "line ".toList ++ natText line ++ " column ".toList ++ natText column ++ " (char ".toList
    ++ natText position ++ [')']

/-- The message for a fault in a text; too long a number is told without its place. -/
def Fault.message (f : Fault) (s : Text) : Text :=
  match f.cause with
  | .tooManyDigits _ => f.cause.text
  | _ => f.cause.text ++ ':' :: ' ' :: placeText s (s.length - f.left)

end LitNote.Json
