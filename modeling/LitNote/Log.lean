import LitNote.Value.Notation

/-!
Log records.  Messages hold user content, so each is brought onto one line and cut to a bounded
length; metrics have their values cut one by one.
-/

namespace LitNote.Log

inductive Level where
  | debug
  | info
  | warning
  | error
  | critical
deriving Repr, DecidableEq, Inhabited

namespace Level

def rank : Level → Nat
  | debug => 10
  | info => 20
  | warning => 30
  | error => 40
  | critical => 50

def name : Level → String
  | debug => "DEBUG"
  | info => "INFO"
  | warning => "WARNING"
  | error => "ERROR"
  | critical => "CRITICAL"

def all : List Level := [debug, info, warning, error, critical]

def ofName? (s : Text) : Option Level := all.find? fun l => l.name.toList == s

end Level

def fragmentLength : Int := 60

def messageLength : Int := 240

def ellipsis : Char := Char.ofNat 0x2026

def flatten (s : Text) : Text := Text.trim (Text.join [' '] (Text.splitRuns Text.isBlank s))

/-- The flattened text, cut to a limit.  An ellipsis shows the cut. -/
def clip (s : Text) (limit : Int) : Text :=
  let flat := flatten s
  if flat.length ≤ limit then flat else Text.takeTo flat (limit - 1) ++ [ellipsis]

def clipValue (v : Value) (limit : Int) : Except Failure Text := do
  return clip (← v.asText) limit

structure Entry where
  level : Level
  logger : Text
  message : Text
deriving Repr, DecidableEq, Inhabited

inductive Call where
  | message (level : Level) (text : Text)
  | metric (event : Text) (values : List (Text × Value))
deriving Repr, Inhabited

def loggerName (part : Text) : Text := "biblib.".toList ++ part

def metricText (event : Text) (values : List (Text × Value)) : Except Failure Text := do
  let parts ← values.mapM fun (k, v) => do return k ++ '=' :: (← clipValue v fragmentLength)
  return "METRIC ".toList ++ event ++ " | ".toList ++ Text.join ", ".toList parts

def Call.entry (logger : Text) : Call → Except Failure Entry
  | message level text => .ok ⟨level, loggerName logger, clip text messageLength⟩
  | metric event values => do return ⟨.info, loggerName logger, ← metricText event values⟩

def entries (logger : Text) (least : Level) (calls : List Call) : Except Failure (List Entry) := do
  return (← calls.mapM (Call.entry logger)).filter fun e => least.rank ≤ e.level.rank

end LitNote.Log
