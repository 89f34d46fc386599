import LitNote.Text.Letter
import LitNote.Template.Token

/-!
The compact notation of key templates: `[auth:lower][year]` means a variable `author` with the
formatter `lower` and a variable `year`.
-/

namespace LitNote.Bracket

structure Group where
  field : Text
  modifiers : List Text
deriving Repr, DecidableEq, Inhabited

def isModifierChar (c : Char) : Bool :=
  Text.isAsciiAlphanumeric c || c == '(' || c == ')' || c == ','

namespace Group

def spelling (g : Group) : Text :=
  '[' :: g.field ++ g.modifiers.flatMap (':' :: ·) ++ [']']

/-- Modifiers up to the closing bracket.  The text is what follows a field or a modifier that has
been read, or, if `word` holds one, what follows a part of that modifier in reverse. -/
def modifiers? (word : Option Text) : Text → Option (List Text)
  | [] => none
  | c :: rest =>
    match word with
    | none =>
      if c == ']' then some [] else if c == ':' then modifiers? (some []) rest else none
    | some w =>
      if isModifierChar c then modifiers? (some (c :: w)) rest
      else if w.isEmpty then none
      else if c == ']' then some [w.reverse]
      else if c == ':' then (modifiers? (some []) rest).map (w.reverse :: ·)
      else none

def atStart? : Text → Option Group
  | '[' :: rest =>
    let field := rest.takeWhile Text.isAsciiWordChar
    if field.isEmpty then none
    else (modifiers? none (rest.dropWhile Text.isAsciiWordChar)).map (⟨field, ·⟩)
  | _ => none

def counted? (word : String) (modifier : Text) : Option Text :=
  let start := word.toList ++ ['(']
  if start.isPrefixOf modifier then
    let rest := modifier.drop start.length
    let digits := rest.takeWhile Text.isAsciiDigit
    if !digits.isEmpty && rest.dropWhile Text.isAsciiDigit == [')'] then some digits else none
  else none

def formatter (field modifier : Text) : Text :=
  match counted? "abbr" modifier, counted? "words" modifier with
  | some digits, _ => "abbr".toList ++ digits
  | none, some _ =>
    if field = "title".toList then "titleword".toList
    else if field = "shorttitle".toList then "shorttitle".toList
    else modifier
  | none, none => modifier

def name (g : Group) : Text := g.field.map Char.toLower

def key (g : Group) : Text := if g.name = "auth".toList then "author".toList else g.name

def formatters (g : Group) : List Text := g.modifiers.map (formatter g.name)

def tag (g : Group) : Text :=
  Template.Token.tagRaw (g.key ++ g.formatters.flatMap ('|' :: ·))

end Group

/-- The number counts the characters of the last group that are still to be passed over. -/
def expandFrom : Nat → Text → Text
  | _, [] => []
  | skip + 1, _ :: rest => expandFrom skip rest
  | 0, c :: rest =>
    match Group.atStart? (c :: rest) with
    | some g => g.tag ++ expandFrom (g.spelling.length - 1) rest
    | none => c :: expandFrom 0 rest

def expand (template : Text) : Text := expandFrom 0 template

end LitNote.Bracket
