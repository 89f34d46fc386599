import LitNote.Value.Elements

/-!
Scopes and dotted paths.  A key that is there as written wins over a walk along its parts.
-/

namespace LitNote

abbrev Scope := List Record

namespace Scope

def get? (scope : Scope) (key : Text) : Option Value := scope.findSome? (Record.get? · key)

theorem get?_cons (r : Record) (scope : Scope) (key : Text) :
    get? (r :: scope) key = (r.get? key).or (scope.get? key) := by
  rw [get?, List.findSome?_cons]
  cases r.get? key <;> rfl

end Scope

namespace Path

def itemAt (items : List Value) (digits : Text) : Except Failure Value := do
  let i ← Integer.ofRun false (digits.map fun c => c.toNat - 48)
  return (items[i.toNat]?).getD .absent

def indexed? : Value → Option (List Value)
  | .text s => some (s.map fun c => .text [c])
  | .list xs => some xs
  | .tuple xs => some xs
  | _ => none

/-- One part of a path: a key of a record; `length` or a position of a text or list. -/
def step (v : Value) (part : Text) : Except Failure Value :=
  match v with
  | .record es => .ok ((Record.get? es part).getD .absent)
  | v =>
    match indexed? v with
    | none => .ok .absent
    | some items =>
      if part = "length".toList then .ok (.int items.length)
      else if !part.isEmpty && part.all Text.isAsciiDigit then itemAt items part
      else .ok .absent

/-- Nothing lies beyond an absent or null value. -/
def walk (v : Value) : List Text → Except Failure Value
  | [] => .ok v
  | part :: parts =>
    match v with
    | .absent => .ok .absent
    | .null => .ok .absent
    | v => do walk (← step v part) parts

def parts (path : Text) : List Text := Text.splitAtChar '.' path

def walkScope (scope : Scope) : List Text → Except Failure Value
  | [] => .ok .absent
  | part :: parts => walk ((scope.get? part).getD .absent) parts

def resolve (scope : Scope) (path : Text) : Except Failure Value :=
  match scope.get? path with
  | some v => .ok v
  | none =>
    match path, scope.get? ['.'] with
    | '.' :: c :: rest, some item => walk item (parts (c :: rest))
    | _, _ => walkScope scope (parts path)

theorem resolve_of_get? {scope : Scope} {path : Text} {v : Value} (h : scope.get? path = some v) :
    resolve scope path = .ok v := by
  simp [resolve, h]

theorem resolve_congr {scope other : Scope} {path : Text}
    (hpath : scope.get? path = other.get? path) (hitem : scope.get? ['.'] = other.get? ['.'])
    (hfirst : ∀ part, (parts path).head? = some part → scope.get? part = other.get? part) :
    resolve scope path = resolve other path := by
  have hwalk : walkScope scope (parts path) = walkScope other (parts path) := by
    cases hp : parts path with
    | nil => rfl
    | cons part rest =>
      have h := hfirst part (by rw [hp]; rfl)
      rw [walkScope, walkScope, h]
  unfold resolve
  rw [hpath, hitem, hwalk]

end Path

end LitNote
