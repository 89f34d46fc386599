import LitNote.Pattern.Basic
import LitNote.Pattern.Sign

/-!
The items of a sequence while a pattern is read, and what alternatives become: what they begin with
in common is taken out of them, and alternatives of one character are one set.
-/

namespace LitNote.Pattern

structure Width where
  low : Nat
  high : Nat
deriving Repr, DecidableEq, Inhabited

namespace Width

def limit : Nat := Nat.pow 2 64

def capped (w : Width) : Width := ⟨min w.low limit, min w.high limit⟩

def repeated (w : Width) (least : Nat) (most : Option Nat) : Width :=
  let high := match most with
    | some n => w.high * n
    | none => if w.high = 0 then 0 else limit
  ⟨w.low * least, high⟩

def either (v w : Width) : Width := ⟨min v.low w.low, max v.high w.high⟩

end Width

inductive ItemKind where
  | unit
  | anchor
  | reference
  | repeated
  | enclosed
deriving Repr, DecidableEq, Inhabited

structure Item where
  pattern : Pattern
  width : Width
  kind : ItemKind
deriving Repr, DecidableEq, Inhabited

namespace Item

def unit (test : CharTest) : Item := ⟨.one test, ⟨1, 1⟩, .unit⟩

def ofSet (flags : Flags) (items : List SetItem) (negated : Bool) : Item :=
  unit (.oneOf ⟨items, negated⟩ flags.rule)

def ofCode (flags : Flags) (code : Nat) : Item := unit (.letter code false flags.rule)

def ofAnchor (a : Anchor) : Item := ⟨.anchor a, ⟨0, 0⟩, .anchor⟩

def bracketed (flags : Flags) (items : List SetItem) (negated : Bool) : Item :=
  match items.eraseDups with
  | [.char code] => unit (.letter code negated flags.rule)
  | items => ofSet flags items negated

def sequence : List Item → Pattern
  | [] => .nothing
  | [item] => item.pattern
  | item :: items => .seq item.pattern (sequence items)

def widthOf (items : List Item) : Width :=
  let low := items.foldl (fun n item => n + item.width.low) 0
  let high := items.foldl (fun n item => n + item.width.high) 0
  Width.capped ⟨low, high⟩

/-- Whether equal items mean the same wherever they stand in one group. -/
def isShared (item : Item) : Bool :=
  item.kind == .unit || item.kind == .anchor || item.kind == .reference

def splitShared : List Item → List (List Item) → List Item × List (List Item)
  | [], others => ([], [] :: others)
  | item :: rest, others =>
    if item.isShared && others.all fun other => other.head? == some item then
      let (shared, rests) := splitShared rest (others.map List.tail)
      (item :: shared, rests)
    else ([], (item :: rest) :: others)

def members? : List Item → Option (List SetItem)
  | [⟨.one (.letter code false _), _, .unit⟩] => some [.char code]
  | [⟨.one (.oneOf ⟨items, false⟩ _), _, .unit⟩] => some items
  | _ => none

def choice : List (List Item) → Pattern
  | [] => .nothing
  | [items] => sequence items
  | items :: others => .alt (sequence items) (choice others)

def alternatives (flags : Flags) (first : List Item) (others : List (List Item)) : List Item :=
  if others.isEmpty then first
  else
    let (shared, rests) := splitShared first others
    let last := match rests.mapM members? with
      | some sets => ofSet flags sets.flatten.eraseDups false
      | none =>
        let width := (rests.map widthOf).foldl Width.either ⟨Width.limit, 0⟩
        ⟨choice rests, width, .enclosed⟩
    shared ++ [last]

end Item

end LitNote.Pattern
