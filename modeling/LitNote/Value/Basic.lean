import LitNote.Calendar.Moment

/-!
Values of templates, citations and settings.  A record is a list of entries in the order in which
their keys first came.
-/

namespace LitNote

inductive Value where
  /-- What a path that leads nowhere gives. -/
  | absent
  | null
  | bool (b : Bool)
  | int (n : Int)
  | float (x : Binary64)
  | text (s : Text)
  | list (items : List Value)
  | tuple (items : List Value)
  | record (entries : List (Value × Value))
  | moment (m : Moment)
  | date (d : Date)
  | bytes (octets : List UInt8)
  | set (members : List Value)
  /-- A list or record that comes again within itself.  Its notation is given here, or why it has
  none, and its content breaks off where it has come again. -/
  | cyclic (display : Except Failure Text) (content : Value)
deriving Repr, Inhabited

abbrev Record := List (Value × Value)

namespace Value

mutual

def beq : Value → Value → Bool
  | .absent, .absent => true
  | .null, .null => true
  | .bool a, .bool b => a == b
  | .int m, .int n => m == n
  | .float x, .float y => x == y
  | .text s, .text t => s == t
  | .list xs, .list ys => beqItems xs ys
  | .tuple xs, .tuple ys => beqItems xs ys
  | .record es, .record fs => beqEntries es fs
  | .moment a, .moment b => a == b
  | .date a, .date b => a == b
  | .bytes a, .bytes b => a == b
  | .set xs, .set ys => beqItems xs ys
  | .cyclic (.ok s) v, .cyclic (.ok t) w => s == t && beq v w
  | .cyclic (.error e) v, .cyclic (.error f) w => e == f && beq v w
  | _, _ => false

def beqItems : List Value → List Value → Bool
  | [], [] => true
  | x :: xs, y :: ys => beq x y && beqItems xs ys
  | _, _ => false

def beqEntries : List (Value × Value) → List (Value × Value) → Bool
  | [], [] => true
  | (k, v) :: es, (l, w) :: fs => beq k l && beq v w && beqEntries es fs
  | _, _ => false

end

instance : BEq Value := ⟨beq⟩

def kind : Value → Kind
  | .absent => .absent
  | .null => .null
  | .bool _ => .bool
  | .int _ => .int
  | .float _ => .float
  | .text _ => .text
  | .list _ => .list
  | .tuple _ => .tuple
  | .record _ => .record
  | .moment _ => .moment
  | .date _ => .date
  | .bytes _ => .bytes
  | .set _ => .set
  | .cyclic _ v => v.kind

def ofString (s : String) : Value := .text s.toList

def number? : Value → Option Binary64.ExactNumber
  | .bool b => some (.ratio (if b then 1 else 0) 1)
  | .int n => some (.ratio n 1)
  | .float x => some (.ofBinary64 x)
  | _ => none

mutual

/-- Whether two values are one key.  Numbers are compared by what they amount to. -/
def sameKey : Value → Value → Bool
  | .absent, .absent => true
  | .null, .null => true
  | .text s, .text t => s == t
  | .tuple xs, .tuple ys => sameKeys xs ys
  | .moment a, .moment b => a.sameInstant b
  | .date a, .date b => a == b
  | .bytes a, .bytes b => a == b
  | a, b =>
    match a.number?, b.number? with
    | some x, some y => x.same y
    | _, _ => false

def sameKeys : List Value → List Value → Bool
  | [], [] => true
  | x :: xs, y :: ys => sameKey x y && sameKeys xs ys
  | _, _ => false

end

mutual

/-- Whether a value can be a key: nothing in it may change. -/
def isKey : Value → Bool
  | .list _ => false
  | .record _ => false
  | .set _ => false
  | .cyclic _ _ => false
  | .tuple xs => areKeys xs
  | _ => true

def areKeys : List Value → Bool
  | [] => true
  | x :: xs => isKey x && areKeys xs

end

/-- Neither absent, null, false, zero nor empty. -/
def isSet : Value → Bool
  | .absent => false
  | .null => false
  | .bool b => b
  | .int n => n != 0
  | .float x => !x.isZero
  | .text s => !s.isEmpty
  | .list xs => !xs.isEmpty
  | .tuple xs => !xs.isEmpty
  | .record es => !es.isEmpty
  | .moment _ => true
  | .date _ => true
  | .bytes b => !b.isEmpty
  | .set xs => !xs.isEmpty
  | .cyclic _ v => v.isSet

def orElse (v other : Value) : Value := if v.isSet then v else other

/-- A list or record without regard to its coming again within itself. -/
def opened : Value → Value
  | .cyclic _ v => v
  | v => v

def isRecord : Value → Bool
  | .record _ => true
  | _ => false

def items? : Value → Option (List Value)
  | .list xs => some xs
  | .tuple xs => some xs
  | _ => none

end Value

namespace Record

def get? (r : Record) (key : Text) : Option Value :=
  match r with
  | [] => none
  | (.text k, v) :: rest => if k == key then some v else get? rest key
  | _ :: rest => get? rest key

def get (r : Record) (key : Text) : Value := (r.get? key).getD .null

def field (r : Record) (key : String) : Value := r.get key.toList

def hasKey (r : Record) (key : Text) : Bool := (r.get? key).isSome

def lookup (r : Record) (key : Value) : Option Value :=
  (r.find? fun (k, _) => k.sameKey key).map (·.2)

def put (r : Record) (key value : Value) : Record :=
  match r with
  | [] => [(key, value)]
  | (k, v) :: rest => if k.sameKey key then (k, value) :: rest else (k, v) :: put rest key value

def set (r : Record) (key : String) (value : Value) : Record := r.put (Value.ofString key) value

def update (r other : Record) : Record := other.foldl (fun r (k, v) => r.put k v) r

def ofEntries (entries : List (Value × Value)) : Record := update [] entries

def ofFields (fields : List (String × Value)) : Record :=
  fields.map fun (k, v) => (Value.ofString k, v)

theorem get?_put_self (r : Record) (key : Text) (value : Value) :
    (put r (.text key) value).get? key = some value := by
  induction r with
  | nil => simp [put, get?]
  | cons e rest ih =>
    obtain ⟨k, v⟩ := e
    unfold put
    split
    · next h =>
      cases k <;> simp_all [Value.sameKey, Value.number?, get?]
    · next h =>
      cases k <;> simp_all [Value.sameKey, Value.number?, get?]

theorem get?_put_of_ne (r : Record) {key other : Text} (h : other ≠ key) (value : Value) :
    (put r (.text key) value).get? other = r.get? other := by
  induction r with
  | nil => simp [put, get?, h.symm]
  | cons e rest ih =>
    obtain ⟨k, v⟩ := e
    cases k with
    | text s =>
      by_cases hs : s = key
      · simp [put, Value.sameKey, get?, hs, h.symm]
      · simp [put, Value.sameKey, get?, hs, ih]
    | _ => simp [put, Value.sameKey, Value.number?, get?, ih]

theorem get?_ofFields_eq_none {fields : List (String × Value)} {key : Text}
    (h : ∀ f ∈ fields, f.1.toList ≠ key) : get? (ofFields fields) key = none := by
  induction fields with
  | nil => rfl
  | cons f fields ih =>
    have hf : (f.1.toList == key) = false := beq_false_of_ne (h f (List.mem_cons_self ..))
    have ih := ih fun g hg => h g (List.mem_cons_of_mem f hg)
    show (if f.1.toList == key then some f.2 else get? (ofFields fields) key) = none
    rw [hf, if_neg Bool.false_ne_true, ih]

end Record

namespace Value

def fields (v : Value) : Except Failure Record :=
  match v.opened with
  | .record r => .ok r
  | v => .error (.noFields v.kind)

end Value

end LitNote
