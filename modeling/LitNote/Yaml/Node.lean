import LitNote.Number.Shortest
import LitNote.Stack
import LitNote.Text.Base64
import LitNote.Value.Place
import LitNote.Yaml.Tag

/-!
Values as nodes to be written.  A node that stands for a part of a known value carries the place of
that part, and nodes with one place are one node.
-/

namespace LitNote.Yaml

inductive Node where
  | scalar (place : Option Place) (tag : Tag) (text : Text)
  | sequence (place : Option Place) (items : List Node)
  | mapping (place : Option Place) (entries : List (Node × Node))
deriving Repr, Inhabited

namespace Node

def place? : Node → Option Place
  | .scalar p _ _ => p
  | .sequence p _ => p
  | .mapping p _ => p

def floatText (x : Binary64) : Text :=
  match x with
  | .nan => ".nan".toList
  | .infinite s => Binary64.signText s ++ ".inf".toList
  | x =>
    let s := x.text
    if s.any (· == '.') then s else s.flatMap fun c => if c == 'e' then ['.', '0', 'e'] else [c]

def within (place : Option Place) (step : Value) : Option Place := place.map (· ++ [step])

mutual

def ofValue (place : Option Place) (v : Value) (room : Nat := Stack.room) : Except Failure Node :=
  match v with
  | .absent => .error .notRepresentable
  | .null => .ok (.scalar none .null "null".toList)
  | .bool b => .ok (.scalar none .bool (if b then "true".toList else "false".toList))
  | .int n => (Integer.write n).map (.scalar none .int)
  | .float x => .ok (.scalar none .float (floatText x))
  | .text s => .ok (.scalar none .text s)
  | .list xs => Stack.descend 3 room fun room => (ofItems place 0 xs room).map (.sequence place)
  | .tuple [] => Stack.descend 3 room fun _ => .ok (.sequence none [])
  | .tuple xs => Stack.descend 3 room fun room => (ofItems place 0 xs room).map (.sequence place)
  | .record es => Stack.descend 3 room fun room => (ofEntries place es room).map (.mapping place)
  | .moment m => .ok (.scalar place .timestamp m.text)
  | .date d => .ok (.scalar place .timestamp d.text)
  | .bytes b => .ok (.scalar none .binary (Text.Base64.encodeLines b))
  | .set _ => .error .notRepresentable
  | .cyclic _ _ => .error .notRepresentable

def ofItems (place : Option Place) (i : Nat) (xs : List Value) (room : Nat) :
    Except Failure (List Node) :=
  match xs with
  | [] => .ok []
  | x :: xs => do
    return (← ofValue (within place (.int i)) x room) :: (← ofItems place (i + 1) xs room)

def ofEntries (place : Option Place) (es : List (Value × Value)) (room : Nat) :
    Except Failure (List (Node × Node)) :=
  match es with
  | [] => .ok []
  | (k, v) :: es => do
    let key ← ofValue none k room
    let value ← ofValue (within place k) v room
    return (key, value) :: (← ofEntries place es room)

end

structure Census where
  seen : List Place
  again : List Place
deriving Inhabited

/-- Counts a node; nothing below a node is counted twice. -/
def Census.meet (c : Census) (place : Option Place) : Census × Bool :=
  match place with
  | none => (c, true)
  | some p =>
    if c.seen.contains p then
      (if c.again.contains p then c else { c with again := c.again ++ [p] }, false)
    else ({ c with seen := p :: c.seen }, true)

mutual

def census (c : Census) : Node → Census
  | .scalar place _ _ => (c.meet place).1
  | .sequence place items =>
    match c.meet place with
    | (c, true) => censusItems c items
    | (c, false) => c
  | .mapping place entries =>
    match c.meet place with
    | (c, true) => censusEntries c entries
    | (c, false) => c

def censusItems (c : Census) : List Node → Census
  | [] => c
  | n :: ns => censusItems (census c n) ns

def censusEntries (c : Census) : List (Node × Node) → Census
  | [] => c
  | (k, v) :: es => censusEntries (census (census c k) v) es

end

def shared (n : Node) : List Place := (census ⟨[], []⟩ n).again

end Node

end LitNote.Yaml
