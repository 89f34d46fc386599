import LitNote.Json.Reader
import LitNote.Json.Writer

/-!
Array literals as templates render them: almost JSON, with commas too many and links without quotes.
The repair makes JSON of them.
-/

namespace LitNote.ArrayLiteral

def isTemplate (template : Text) : Bool :=
  template.head? == some '[' && template.getLast? == some ']'

def empty : Text := ['[', ']']

/-- Whether a text is JSON; nesting too deep to tell is a failure. -/
def isJson (s : Text) : Except Failure Bool :=
  match Json.read s with
  | .ok _ => .ok true
  | .error f => if f.cause = .tooDeep then .error .tooDeep else .ok false

def quoteCount (s : Text) : Nat := s.count '"'

/-- The pieces between commas after which an even number of quotation marks comes. -/
def splitItems : Text → List Text
  | [] => [[]]
  | c :: rest =>
    if c == ',' && quoteCount rest % 2 == 0 then [] :: splitItems rest
    else match splitItems rest with
      | [] => [[c]]
      | item :: items => (c :: item) :: items

def isQuoted (item : Text) : Bool := item.head? == some '"' && item.getLast? == some '"'

def isLink (item : Text) : Bool :=
  Text.contains ['[', '['] item && Text.contains [']', ']'] item

def quoteItem (item : Text) : Text :=
  if isQuoted item then item
  else if isLink item then '"' :: Text.replaceAll ['"'] ['\\', '"'] item ++ ['"']
  else item

def items (literal : Text) : List Text :=
  let content := Text.trim (literal.drop 1).dropLast
  ((splitItems content).map Text.trim).filter (!·.isEmpty)

def repair (literal : Text) : Text :=
  match items literal with
  | [] => empty
  | items => '[' :: Text.join [','] (items.map quoteItem) ++ [']']

def normalize (s : Text) : Except Failure Text := do
  let literal := Text.trim s
  if literal.filter (!Text.isBlank ·) = empty then return empty
  if !isTemplate literal then return s
  if ← isJson literal then return s
  return repair literal

end LitNote.ArrayLiteral
