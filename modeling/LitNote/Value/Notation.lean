import LitNote.Json.Writer

/-!
The notation of values in messages and in names made from values that are no texts.  A text alone is
shown as it is, and within a container in quotes.
-/

namespace LitNote.Value

def offsetNotation (off : Int) : Text :=
  if off = 0 then "datetime.timezone.utc".toList
  else
    let days := Int.fdiv off 86400
    let seconds := (Int.fmod off 86400).toNat
    let parts :=
      (if days = 0 then [] else ["days=".toList ++ Integer.text days])
        ++ (if seconds = 0 then [] else ["seconds=".toList ++ natText seconds])
    "datetime.timezone(datetime.timedelta(".toList ++ Text.join ", ".toList parts ++ "))".toList

def dateNotation (d : Date) : Text :=
  "datetime.date(".toList ++ Text.join ", ".toList [natText d.year, natText d.month, natText d.day]
    ++ ")".toList

def momentNotation (m : Moment) : Text :=
  let t := m.time
  let clock :=
    if t.micro ≠ 0 then [t.hour, t.minute, t.second, t.micro]
    else if t.second ≠ 0 then [t.hour, t.minute, t.second]
    else [t.hour, t.minute]
  let parts := ([m.date.year, m.date.month, m.date.day] ++ clock).map natText
  let parts := match m.offset with
    | none => parts
    | some off => parts ++ ["tzinfo=".toList ++ offsetNotation off]
  "datetime.datetime(".toList ++ Text.join ", ".toList parts ++ ")".toList

mutual

/-- The notation that shows the kind of a value; every container takes one call. -/
def notated (v : Value) (room : Nat := Stack.room) : Except Failure Text :=
  match v with
  | .absent => .ok "MISSING".toList
  | .null => .ok "None".toList
  | .bool b => .ok (if b then "True".toList else "False".toList)
  | .int n => Integer.write n
  | .float x => .ok x.text
  | .text s => .ok (Text.quoted s)
  | .list xs => Stack.descend 1 room fun room => do return '[' :: (← notatedItems xs room) ++ [']']
  | .tuple [x] => Stack.descend 1 room fun room => do return '(' :: (← notated x room) ++ [',', ')']
  | .tuple xs => Stack.descend 1 room fun room => do return '(' :: (← notatedItems xs room) ++ [')']
  | .record es => Stack.descend 1 room fun room => do
    return '{' :: (← notatedEntries es room) ++ ['}']
  | .moment m => .ok (momentNotation m)
  | .date d => .ok (dateNotation d)
  | .bytes b => .ok (Text.quotedBytes b)
  | .set [] => Stack.descend 1 room fun _ => .ok "set()".toList
  | .set xs => Stack.descend 1 room fun room => do return '{' :: (← notatedItems xs room) ++ ['}']
  | .cyclic (.ok s) _ => .ok s
  | .cyclic (.error .tooDeep) _ => .error .tooDeep
  | .cyclic (.error _) _ => .error .tooManyDigits

def notatedItems (xs : List Value) (room : Nat) : Except Failure Text :=
  match xs with
  | [] => .ok []
  | [x] => notated x room
  | x :: xs => do return (← notated x room) ++ ',' :: ' ' :: (← notatedItems xs room)

def notatedEntries (es : List (Value × Value)) (room : Nat) : Except Failure Text :=
  match es with
  | [] => .ok []
  | [(k, v)] => do return (← notated k room) ++ ':' :: ' ' :: (← notated v room)
  | (k, v) :: es => do
    return (← notated k room) ++ ':' :: ' ' :: (← notated v room) ++ ',' :: ' ' ::
      (← notatedEntries es room)

end

def asText : Value → Except Failure Text
  | .text s => .ok s
  | .moment m => .ok m.text
  | .date d => .ok d.text
  | v => v.notated

end LitNote.Value
