import LitNote.Value.Basic

/-!
What a value consists of, records made from lists of pairs, and values as integers.
-/

namespace LitNote.Value

def elements (v : Value) : Except Failure (List Value) :=
  match v.opened with
  | .list xs => .ok xs
  | .tuple xs => .ok xs
  | .text s => .ok (s.map fun c => .text [c])
  | .record es => .ok (es.map (·.1))
  | .bytes b => .ok (b.map fun octet => .int octet.toNat)
  | .set xs => .ok xs
  | v => .error (.noElements v.kind)

def pair (v : Value) : Except Failure (Value × Value) := do
  match ← v.elements with
  | [k, x] => if k.isKey then return (k, x) else throw (.noKeyValue k.kind)
  | _ => throw .noPair

def toRecord (v : Value) : Except Failure Record :=
  match v with
  | .record es => .ok es
  | v => do return Record.ofEntries (← (← v.elements).mapM pair)

def integer : Value → Except Failure Int
  | .int n => .ok n
  | .bool b => .ok (if b then 1 else 0)
  | .float x => x.truncate
  | .text s => Integer.read s
  | _ => .error .wrongKind

end LitNote.Value
