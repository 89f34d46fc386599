import LitNote.Value.Notation

/-!
Values as template text: truth values in lower case, integral numbers without a point, lists joined
by commas, and whether a value opens a block.
-/

namespace LitNote.Value

mutual

/-- The text that formatters work on.  A list takes three calls and then those of its items; one
that comes again within itself takes more than there are. -/
def plain (v : Value) (room : Nat := Stack.room) : Except Failure Text :=
  match v with
  | .absent => .ok []
  | .null => .ok []
  | .text s => .ok s
  | .bool b => .ok (Json.writeBool b)
  | .int n => Integer.write n
  | .float x => .ok x.plainText
  | .list xs => Stack.descend 3 room fun room => plainItems xs room
  | .tuple xs => Stack.descend 3 room fun room => plainItems xs room
  | .record es => Json.writeOr "[Object]" (.record es) room
  | .moment m => .ok m.text
  | .date d => .ok d.text
  | .bytes b => .ok (Text.quotedBytes b)
  | .set xs => notated (.set xs) room
  | .cyclic _ v => if v.isRecord then .ok "[Object]".toList else .error .tooDeep

def plainItems (xs : List Value) (room : Nat) : Except Failure Text :=
  match xs with
  | [] => .ok []
  | [x] => plain x room
  | x :: xs => do return (← plain x room) ++ ',' :: (← plainItems xs room)

end

def shown : Value → Except Failure Text
  | .list xs => Json.writeOr "[Object]" (.list xs)
  | .tuple xs => Json.writeOr "[Object]" (.tuple xs)
  | .record es => Json.writeOr "[Object]" (.record es)
  | .cyclic _ _ => .ok "[Object]".toList
  | v => v.plain

/-- Whether a block on the value is rendered: numbers and records always count. -/
def opensBlock : Value → Bool
  | .absent => false
  | .null => false
  | .bool b => b
  | .text s => !s.isEmpty
  | .list xs => !xs.isEmpty
  | .tuple xs => !xs.isEmpty
  | _ => true

def isEmpty : Value → Bool
  | .absent => true
  | .null => true
  | .text s => s.isEmpty
  | .list xs => xs.isEmpty
  | .tuple xs => xs.isEmpty
  | _ => false

end LitNote.Value
