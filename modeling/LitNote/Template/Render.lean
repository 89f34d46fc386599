import LitNote.ArrayLiteral
import LitNote.Citation.KeyText
import LitNote.Template.Formatter
import LitNote.Template.Node
import LitNote.Value.Path

/-!
Rendering of templates.  Blocks are settled before any value is put in, and values are never read as
templates.
-/

namespace LitNote.Template

def loopRecord (item : Value) (index length : Nat) : Record :=
  Record.ofFields [(".", item), ("@index", .int index), ("@number", .int (index + 1)),
    ("@first", .bool (index == 0)), ("@last", .bool (index + 1 == length)),
    ("@odd", .bool (index % 2 == 1)), ("@even", .bool (index % 2 == 0)), ("@length", .int length)]

def isDigits (s : Text) : Bool := !s.isEmpty && s.all Text.isDecimalDigit

def lengthOf (digits : Text) : Except Failure Int :=
  Integer.ofRun false (Integer.spanDigits digits).1

/-- The length of a random text that a variable stands for, whatever the scope holds. -/
def randomLength? (key : Text) (formatters : List Text) : Option (Except Failure Int) :=
  if key = "rand".toList then
    match formatters with
    | [] => some (.ok Formatter.defaultLetters)
    | [digits] => if isDigits digits then some (lengthOf digits) else none
    | _ => none
  else none

def numberedLength? (key : Text) : Option (Except Failure Int) :=
  let word := "rand".toList
  if word.isPrefixOf key && isDigits (key.drop word.length) then
    some (lengthOf (key.drop word.length))
  else none

def renderValue (key : Text) (formatters : List Text) (value : Value) : Drawing Text :=
  match value, formatters with
  | .absent, [] =>
    match numberedLength? key with
    | some length => do Drawing.text (← Drawing.failing length)
    | none => return []
  | .absent, _ => return []
  | .null, _ => return []
  | value, [] => Drawing.failing value.shown
  | value, formatters => Formatter.applyChain value formatters

def renderVariable (key : Text) (formatters : List Text) (scope : Scope) : Drawing Text :=
  match randomLength? key formatters with
  | some length => do Drawing.text (← Drawing.failing length)
  | none => do renderValue key formatters (← Drawing.failing (Path.resolve scope key))

def renderItems (f : Value → Nat → Drawing Text) : List Value → Nat → Drawing Text
  | [], _ => return []
  | item :: items, i => do
    let s ← f item i
    return s ++ (← renderItems f items (i + 1))

mutual

def renderNode (scope : Scope) : Node → Drawing Text
  | .text s => return s
  | .var key formatters => renderVariable key formatters scope
  | .block name inverted children => do
    let value ← Drawing.failing (Path.resolve scope name)
    if inverted then
      if value.isEmpty then renderNodes scope children else return []
    else match value.items? with
      | some items =>
        renderItems
          (fun item i => renderNodes (loopRecord item i items.length :: scope) children) items 0
      | none => if value.opensBlock then renderNodes scope children else return []

def renderNodes (scope : Scope) : List Node → Drawing Text
  | [] => return []
  | node :: nodes => do
    let s ← renderNode scope node
    return s ++ (← renderNodes scope nodes)

end

def renderWith (template : Text) (vars : Value) : Drawing Text := do
  let nodes ← Drawing.failing (parse template)
  let record ← if vars.isSet then Drawing.failing vars.toRecord else pure []
  renderNodes [record] nodes

def render (template : Text) (vars : Value) : Drawing Text :=
  (renderWith template vars).recover []

structure Finish where
  key : Bool
  array : Bool
deriving Repr, DecidableEq, Inhabited

def finish (how : Finish) (template s : Text) : Except Failure Text :=
  let s := if how.key then KeyText.sanitize s else s
  if how.array && ArrayLiteral.isTemplate template then ArrayLiteral.normalize s else .ok s

def renderAs (how : Finish) (template : Text) (vars : Value) : Drawing Text := do
  let s ← render template vars
  Drawing.failing (finish how template s)

end LitNote.Template
