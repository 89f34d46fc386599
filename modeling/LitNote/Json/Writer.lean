import LitNote.Stack
import LitNote.Value.Basic
import LitNote.Number.Shortest
import LitNote.Text.Quoted

/-!
JSON without spaces.  Characters beyond ASCII stand for themselves.  Moments, dates, absent values
and keys that are containers have no JSON form.
-/

namespace LitNote.Json

def writeChar (c : Char) : Text :=
  if c == '"' || c == '\\' then ['\\', c]
  else if c == '\n' then ['\\', 'n']
  else if c == '\r' then ['\\', 'r']
  else if c == '\t' then ['\\', 't']
  else if c.toNat = 8 then ['\\', 'b']
  else if c.toNat = 12 then ['\\', 'f']
  else if c.toNat < 32 then '\\' :: 'u' :: Text.hexDigits 4 c.toNat
  else [c]

def writeText (s : Text) : Text := '"' :: s.flatMap writeChar ++ ['"']

def writeFloat : Binary64 → Text
  | .nan => "NaN".toList
  | .infinite s => Binary64.signText s ++ "Infinity".toList
  | x => x.text

def writeBool (b : Bool) : Text := if b then "true".toList else "false".toList

def writeKey : Value → Except Failure Text
  | .text s => .ok (writeText s)
  | .null => .ok (writeText "null".toList)
  | .bool b => .ok (writeText (writeBool b))
  | .int n => (Integer.write n).map writeText
  | .float x => .ok (writeText (writeFloat x))
  | _ => .error .wrongKind

mutual

def write (v : Value) (room : Nat := Stack.room) : Except Failure Text :=
  match v with
  | .null => .ok "null".toList
  | .bool b => .ok (writeBool b)
  | .int n => Integer.write n
  | .float x => .ok (writeFloat x)
  | .text s => .ok (writeText s)
  | .list xs => Stack.descend 1 room fun room => do return '[' :: (← writeItems xs room) ++ [']']
  | .tuple xs => Stack.descend 1 room fun room => do return '[' :: (← writeItems xs room) ++ [']']
  | .record es => Stack.descend 1 room fun room => do
    return '{' :: (← writeEntries es room) ++ ['}']
  | .absent => .error .wrongKind
  | .moment _ => .error .wrongKind
  | .date _ => .error .wrongKind
  | .bytes _ => .error .wrongKind
  | .set _ => .error .wrongKind
  | .cyclic _ _ => .error .wrongKind

def writeItems (xs : List Value) (room : Nat) : Except Failure Text :=
  match xs with
  | [] => .ok []
  | [x] => write x room
  | x :: xs => do return (← write x room) ++ ',' :: (← writeItems xs room)

def writeEntries (es : List (Value × Value)) (room : Nat) : Except Failure Text :=
  match es with
  | [] => .ok []
  | [(k, v)] => do return (← writeKey k) ++ ':' :: (← write v room)
  | (k, v) :: es => do
    return (← writeKey k) ++ ':' :: (← write v room) ++ ',' :: (← writeEntries es room)

end

/-- The JSON form, or a fixed text for a value without one.  Nesting too deep is not made up for. -/
def writeOr (other : String) (v : Value) (room : Nat := Stack.room) : Except Failure Text :=
  match write v room with
  | .error .tooDeep => .error .tooDeep
  | .error _ => .ok other.toList
  | .ok s => .ok s

def ofValue (v : Value) : Except Failure Text := writeOr "[Invalid JSON]" v

end LitNote.Json
