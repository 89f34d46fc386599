import LitNote.Text.Quoted

/-!
Why an operation has no answer, and how that is worded.
-/

namespace LitNote

inductive Kind where
  | absent
  | null
  | bool
  | int
  | float
  | text
  | list
  | tuple
  | record
  | moment
  | date
  | bytes
  | set
deriving Repr, DecidableEq, Inhabited

namespace Kind

def name : Kind → String
  | absent => "_Missing"
  | null => "NoneType"
  | bool => "bool"
  | int => "int"
  | float => "float"
  | text => "str"
  | list => "list"
  | tuple => "tuple"
  | record => "dict"
  | moment => "datetime"
  | date => "date"
  | bytes => "bytes"
  | set => "set"

def fullName : Kind → String
  | moment => "datetime.datetime"
  | date => "datetime.date"
  | k => k.name

end Kind

inductive TimePart where
  | year
  | month
  | day
  | hour
  | minute
  | second
  | zone
deriving Repr, DecidableEq, Inhabited

/-- Causes of failure.  Values in templates, citations and settings may have any shape, so most
causes say which shape was missing. -/
inductive Failure where
  | tooManyDigits
  /-- A text of more digits than are read. -/
  | tooLongInteger (count : Nat)
  | noInteger (base : Nat) (literal : Text)
  | noNumber (literal : Text)
  | notANumber
  | outOfRange
  | noCharacter
  | noPosition
  | noTime (part : TimePart)
  | tooDeep
  | noFields (kind : Kind)
  | noText (kind : Kind)
  | noElements (kind : Kind)
  | noPair
  | noIndexing (kind : Kind)
  | noMembers (kind : Kind)
  | noKey (key : Text)
  /-- A container that may change was used as a key or compared as one. -/
  | noKeyValue (kind : Kind)
  | wrongKind
  /-- A tag whose form the text under it does not have. -/
  | noForm
  | notRepresentable
  | malformedYaml
  | invalidSetting (message : Text)
  | noSettingsFile (path : Text)
  | isDirectory (path : Text)
deriving Repr, DecidableEq, Inhabited

namespace Failure

def about (kind : Kind) (what : String) : Text :=
  '\'' :: kind.fullName.toList ++ "' object ".toList ++ what.toList

def timeMessage : TimePart → String
  | .year => "year 0 is out of range"
  | .month => "month must be in 1..12"
  | .day => "day is out of range for month"
  | .hour => "hour must be in 0..23"
  | .minute => "minute must be in 0..59"
  | .second => "second must be in 0..59"
  | .zone => "offset must be a timedelta strictly between -timedelta(hours=24) and " ++
      "timedelta(hours=24)."

def indexingMessage : Kind → Text
  | .text => "string indices must be integers, not 'str'".toList
  | .list => "list indices must be integers or slices, not str".toList
  | .tuple => "tuple indices must be integers or slices, not str".toList
  | .bytes => "byte indices must be integers or slices, not str".toList
  | kind => about kind "is not subscriptable"

def limitMessage (what : Text) : Text :=
  "Exceeds the limit (4300 digits) for integer string conversion".toList ++ what
    ++ "; use sys.set_int_max_str_digits() to increase the limit".toList

def digitsMessage : Text := limitMessage []

def lengthMessage (count : Nat) : Text :=
  limitMessage (": value has ".toList ++ Nat.toDigits 10 count ++ " digits".toList)

def integerMessage (base : Nat) (literal : Text) : Text :=
  "invalid literal for int() with base ".toList ++ Nat.toDigits 10 base ++ ':' :: ' ' ::
    (Text.quoted literal).take 200

def message : Failure → Text
  | tooManyDigits => digitsMessage
  | tooLongInteger count => lengthMessage count
  | noInteger base literal => integerMessage base literal
  | noNumber literal => "could not convert string to float: ".toList ++ Text.quoted literal
  | notANumber => "cannot convert float NaN to integer".toList
  | outOfRange => "cannot convert float infinity to integer".toList
  | noCharacter => "chr() arg not in range(0x110000)".toList
  | noPosition => "string index out of range".toList
  | noTime part => (timeMessage part).toList
  | tooDeep => "maximum recursion depth exceeded".toList
  | noFields kind => about kind "has no attribute 'get'"
  | noText kind => about kind "has no attribute 'strip'"
  | noElements kind => about kind "is not iterable"
  | noPair => "dictionary update sequence element has length 1; 2 is required".toList
  | noIndexing kind => indexingMessage kind
  | noMembers kind =>
    "argument of type '".toList ++ kind.fullName.toList ++ "' is not iterable".toList
  | noKey key => Text.quoted key
  | noKeyValue kind => "unhashable type: '".toList ++ kind.fullName.toList ++ ['\'']
  | wrongKind => "unsupported operand".toList
  | noForm => about .null "has no attribute 'groupdict'"
  | notRepresentable => "cannot represent an object".toList
  | malformedYaml => "malformed YAML".toList
  | invalidSetting text => text
  | noSettingsFile path => "Config file not found: ".toList ++ path
  | isDirectory path => "[Errno 21] Is a directory: ".toList ++ Text.quoted path

end Failure

end LitNote
