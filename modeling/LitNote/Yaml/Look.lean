import LitNote.Text.Basic

/-!
What a text holds that decides how it can be written as a scalar.
-/

namespace LitNote.Yaml

def isBreak (c : Char) : Bool :=
  c == '\n' || c.toNat == 0x85 || c.toNat == 0x2028 || c.toNat == 0x2029

def isSeparation (c : Char) : Bool :=
  isBreak c || c == ' ' || c == '\t' || c == '\r' || c.toNat == 0

def isVisible (c : Char) : Bool :=
  let n := c.toNat
  c == '\n' || (0x20 ≤ n && n ≤ 0x7E)
    || ((n == 0x85 || (0xA0 ≤ n && n ≤ 0xD7FF) || (0xE000 ≤ n && n ≤ 0xFFFD)
      || (0x10000 ≤ n && n < 0x10FFFF)) && n != 0xFEFF)

def endsWord : Text → Bool
  | [] => true
  | c :: _ => isSeparation c

def leadsAstray (c : Char) (rest : Text) : Bool :=
  ['#', ',', '[', ']', '{', '}', '&', '*', '!', '|', '>', '\'', '"', '%', '@', '\x60'].contains c
    || ((c == '?' || c == ':' || c == '-') && endsWord rest)

def innerAstray (previous : Char) : Text → Bool
  | [] => false
  | c :: rest =>
    (c == ':' && endsWord rest) || (c == '#' && isSeparation previous) || innerAstray c rest

def hasIndicator (s : Text) : Bool :=
  match s with
  | [] => false
  | c :: rest =>
    ['-', '-', '-'].isPrefixOf s || ['.', '.', '.'].isPrefixOf s || leadsAstray c rest
      || innerAstray c rest

def hasPair (p q : Char → Bool) : Text → Bool
  | c :: d :: rest => (p c && q d) || hasPair p q (d :: rest)
  | _ => false

def isSpace (c : Char) : Bool := c == ' '

def isEdge (c : Char) : Bool := isSpace c || isBreak c

def allowsPlain (s : Text) : Bool :=
  s.isEmpty
    || (s.all isVisible && !s.any isBreak && !s.head?.any isEdge && !s.getLast?.any isEdge
      && !hasIndicator s)

def allowsSingleQuotes (s : Text) : Bool :=
  s.all isVisible && !hasPair isBreak isSpace s && !hasPair isSpace isBreak s

def isMultiline (s : Text) : Bool := s.any isBreak

end LitNote.Yaml
