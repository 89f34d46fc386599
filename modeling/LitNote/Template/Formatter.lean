import LitNote.Citation.Title
import LitNote.Draws
import LitNote.Pattern.Reader
import LitNote.Template.DateStyle
import LitNote.Text.Percent

/-!
Formatters.  Each one makes a text of a value, its plain text and the arguments; where it cannot,
the plain text stands.
-/

namespace LitNote.Template

inductive Formatter where
  | upper
  | lower
  | capitalize
  | sentence
  | truncate
  | ellipsis
  | abbreviate
  | slice
  | pad
  | replace
  | trim
  | prepend
  | append
  | split
  | join
  | urlEncode
  | urlDecode
  | number
  | json
  | count
  | date
  | titleWord
  | shortTitle
  | rand
deriving Repr, DecidableEq, Inhabited

namespace Formatter

def names : List (String × Formatter) :=
  [("abbr", abbreviate), ("capitalize", capitalize), ("count", count), ("date", date),
    ("ellipsis", ellipsis), ("join", join), ("json", json), ("lower", lower), ("lowercase", lower),
    ("number", number), ("pad", pad), ("prefix", prepend), ("rand", rand), ("replace", replace),
    ("sentence", sentence), ("shorttitle", shortTitle), ("slice", slice), ("split", split),
    ("suffix", append), ("title", capitalize), ("titleword", titleWord), ("trim", trim),
    ("truncate", truncate), ("upper", upper), ("uppercase", upper), ("urldecode", urlDecode),
    ("urlencode", urlEncode)]

def ofName? (name : Text) : Option Formatter :=
  (names.find? fun (s, _) => s.toList == name).map (·.2)

/-- The integer at the start of an argument: `missing` without that argument, nothing if it starts
with no integer. -/
def intArg (args : List Text) (i : Nat) (missing : Option Int) : Except Failure (Option Int) :=
  match args[i]? with
  | none => .ok missing
  | some arg => Integer.leading arg

def textArg (args : List Text) (i : Nat) (missing : Text) : Text :=
  match args[i]? with
  | some (c :: arg) => c :: arg
  | _ => missing

def defaultLimit : Int := 30

def defaultLetters : Int := 5

def exceeds (s : Text) (limit : Int) : Bool := limit < s.length

/-- Every word with its first character in upper case; `start` says that a word may start. -/
def capitalizeFrom (start : Bool) : Text → Text
  | [] => []
  | c :: rest =>
    if Text.isBlank c then c :: capitalizeFrom true rest
    else (if start then Text.upperOf c else [c]) ++ capitalizeFrom false rest

def sentenceCase : Text → Text
  | [] => []
  | c :: rest => Text.upperOf c ++ rest

def maxPadding : Int := 100000000

def padding (fill : Text) (count : Nat) : Text :=
  (List.replicate (count / fill.length + 1) fill).flatten.take count

def padTo (width : Int) (fill s : Text) : Except Failure Text :=
  let missing := width - s.length
  if missing ≤ 0 then .ok s
  else if missing > maxPadding then .error .outOfRange
  else .ok (padding fill missing.toNat ++ s)

def sliced (s : Text) (args : List Text) : Except Failure Text := do
  if args.isEmpty then return s
  let start ← intArg args 0 none
  let stop ← intArg args 1 none
  if 2 ≤ args.length && stop.isNone then return []
  return Text.slice s (start.getD 0) stop

def replaced (find new s : Text) : Except Failure Text :=
  match Pattern.ofText find with
  | .ok searcher =>
    match searcher.replace? new s with
    | some replaced => .ok replaced
    | none => .error .outOfRange
  | .error .malformed => .ok (Text.replaceAll find new s)
  | .error .refused => .error .outOfRange

def numeric (s : Text) (args : List Text) : Except Failure Text := do
  match Binary64.readDecimal (Text.trimStart s) with
  | none => return s
  | some (x, _) =>
    match ← intArg args 0 none with
    | none => return x.plainText
    | some places => return x.fixed (max 0 (min 100 places)).toNat

def joined (value : Value) (s : Text) (args : List Text) : Except Failure Text := do
  match value.items? with
  | some items => return Text.join (textArg args 0 [',']) (← items.mapM fun v => v.plain)
  | none => return s

def dated (value : Value) (s : Text) (args : List Text) : Text :=
  (((momentOf? value).bind (styled? (args.headD []))).getD s)

def random (args : List Text) : Drawing Text := do
  let length ← Drawing.failing (intArg args 0 (some defaultLetters))
  Drawing.text (length.getD defaultLetters)

def draw (f : Formatter) (value : Value) (s : Text) (args : List Text) : Drawing Text :=
  match f with
  | upper => return Text.toUpper s
  | lower => return Text.toLower s
  | capitalize => return capitalizeFrom true s
  | sentence => return sentenceCase s
  | truncate => Drawing.failing do
    match ← intArg args 0 (some defaultLimit) with
    | some limit => return if exceeds s limit then s.take limit.toNat else s
    | none => return s
  | ellipsis => Drawing.failing do
    match ← intArg args 0 (some defaultLimit) with
    | some limit => return if exceeds s limit then s.take limit.toNat ++ "...".toList else s
    | none => return s
  | abbreviate => Drawing.failing do
    match ← intArg args 0 (some 1) with
    | some limit => return s.take limit.toNat
    | none => return s
  | slice => Drawing.failing (sliced s args)
  | pad => Drawing.failing do
    match ← intArg args 0 none with
    | some width => padTo width (textArg args 1 [' ']) s
    | none => return s
  | replace =>
    match args with
    | find :: new :: _ => Drawing.failing (replaced find new s)
    | _ => return s
  | trim => return Text.trim s
  | prepend => return args.headD [] ++ s
  | append => return s ++ args.headD []
  | split =>
    return if args.isEmpty then s else Text.join [','] (Text.splitOn (textArg args 0 [',']) s)
  | join => Drawing.failing (joined value s args)
  | urlEncode => return Text.Percent.encode s
  | urlDecode => return Text.Percent.decode s
  | number => Drawing.failing (numeric s args)
  | json => Drawing.failing (Json.ofValue value)
  | count => return natText ((value.items?.map List.length).getD 0)
  | date => return dated value s args
  | titleWord => return Title.wordsOf s 1
  | shortTitle => return Title.wordsOf s 3
  | rand => random args

/-- Digits up to the end of a text, where one line feed may follow. -/
def trailingDigits? (s : Text) : Option Text :=
  let digits := s.takeWhile Text.isDecimalDigit
  let rest := s.dropWhile Text.isDecimalDigit
  if digits.isEmpty || !(rest.isEmpty || rest == ['\n']) then none else some digits

def numbered : List (Text × Formatter) :=
  [("abbr".toList, abbreviate), ("truncate".toList, truncate), ("rand".toList, rand)]

def ofNumbered? (name : Text) : Option (Formatter × Text) :=
  numbered.findSome? fun (word, f) =>
    if word.isPrefixOf name then (trailingDigits? (name.drop word.length)).map (f, ·) else none

def apply (name : Text) (value : Value) (args : List Text) : Drawing Text := do
  let s ← Drawing.failing value.plain
  match ofName? name, ofNumbered? name, args with
  | some f, _, args => (f.draw value s args).recover s
  | none, some (f, arg), [] => (f.draw value s [arg]).recover s
  | none, _, _ => return s

def readSpec (spec : Text) : Text × List Text :=
  match Text.splitAtChar ':' (Text.trim spec) with
  | [] => ([], [])
  | name :: args => (name, args)

def applySpec (value : Value) (spec : Text) : Drawing Value :=
  if spec.all Text.isBlank then return value
  else do
    let (name, args) := readSpec spec
    return .text (← apply name value args)

def applyChain (value : Value) : List Text → Drawing Text
  | [] => Drawing.failing value.plain
  | spec :: specs => do applyChain (← applySpec value spec) specs

end Formatter

end LitNote.Template
