import LitNote.Text.Basic
import LitNote.Text.Letter

/-!
The characters of a citation key.  A key starts with an ASCII letter, a digit or the underscore, and
ends with one; marks may stand between.
-/

namespace LitNote.KeyText

def isStart (c : Char) : Bool := Text.isAsciiWordChar c

def isMark (c : Char) : Bool :=
  [':', '.', '#', '$', '%', '&', '-', '+', '?', '<', '>', '~', '/'].contains c

def isInner (c : Char) : Bool := isStart c || isMark c

def startsWell (s : Text) : Bool := s.head?.any isStart

def sanitize (s : Text) : Text :=
  let s := if startsWell s then s else '_' :: s
  ((s.filter isInner).reverse.dropWhile isMark).reverse

end LitNote.KeyText
