import LitNote.Text.Basic

/-!
Tokens of a template: complete tags `{{…}}`, whose body holds no closing brace, and the text between
them.
-/

namespace LitNote.Template

/-- A tag keeps its spelling in `raw`. -/
inductive Token where
  | text (raw : Text)
  | opening (raw name : Text) (inverted : Bool)
  | closing (raw name : Text)
  | var (raw key : Text) (formatters : List Text)
deriving Repr, DecidableEq, Inhabited

namespace Token

def raw : Token → Text
  | .text raw => raw
  | .opening raw _ _ => raw
  | .closing raw _ => raw
  | .var raw _ _ => raw

def formatters (s : Text) : List Text :=
  let s := Text.trim s
  if s.isEmpty then [] else (Text.splitAtChar '|' s).map Text.trim

def endsKey (c : Char) : Bool := c == '#' || c == '^' || c == '|'

def ofVariable (body raw : Text) : Token :=
  let key := body.takeWhile (!endsKey ·)
  if key.isEmpty then .text raw
  else match body.dropWhile (!endsKey ·) with
    | [] => .var raw (Text.trim key) []
    | '|' :: c :: rest => .var raw (Text.trim key) (formatters (c :: rest))
    | _ => .text raw

def ofBlock (name raw : Text) (inverted : Bool) : Token :=
  let name := Text.trim name
  if name.isEmpty then .text raw else .opening raw name inverted

def ofTag (body raw : Text) : Token :=
  match body with
  | '#' :: name => ofBlock name raw false
  | '^' :: name => ofBlock name raw true
  | '/' :: name => .closing raw (Text.trim name)
  | body => ofVariable body raw

def tagBody? : Text → Option Text
  | '{' :: '{' :: rest =>
    let body := rest.takeWhile (· != '}')
    match rest.dropWhile (· != '}') with
    | '}' :: '}' :: _ => some body
    | _ => none
  | _ => none

def tagRaw (body : Text) : Text := '{' :: '{' :: body ++ ['}', '}']

end Token

inductive Piece where
  | plain (run : Text)
  | tag (body : Text)
deriving Repr, DecidableEq

def Piece.prepend (c : Char) : List Piece → List Piece
  | .plain run :: pieces => .plain (c :: run) :: pieces
  | pieces => .plain [c] :: pieces

/-- The number counts the characters of the last tag that are still to be passed over. -/
def piecesFrom : Nat → Text → List Piece
  | _, [] => []
  | skip + 1, _ :: rest => piecesFrom skip rest
  | 0, c :: rest =>
    match Token.tagBody? (c :: rest) with
    | some body => .tag body :: piecesFrom (body.length + 3) rest
    | none => Piece.prepend c (piecesFrom 0 rest)

def Piece.token : Piece → Token
  | .plain run => .text run
  | .tag body => Token.ofTag body (Token.tagRaw body)

def tokenize (template : Text) : List Token := (piecesFrom 0 template).map Piece.token

end LitNote.Template
