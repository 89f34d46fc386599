import LitNote.Pattern.CharSet
import LitNote.Text.Basic

/-!
Patterns, and places in a text.
-/

namespace LitNote

inductive Greed where
  | most
  | least
  /-- As often as possible, and no other way. -/
  | all
deriving Repr, DecidableEq, Inhabited

inductive Anchor where
  | textStart
  | textEnd
  | start (ofLines : Bool)
  | stop (ofLines : Bool)
  | wordEdge (ascii negated : Bool)
deriving Repr, DecidableEq, Inhabited

/-- Groups are numbered from 1. -/
inductive Pattern where
  | nothing
  | one (test : Pattern.CharTest)
  | seq (first second : Pattern)
  | alt (first second : Pattern)
  | repeated (least : Nat) (most : Option Nat) (greed : Greed) (body : Pattern)
  | group (index : Nat) (body : Pattern)
  | same (index : Nat) (rule : Pattern.LetterRule)
  | ahead (body : Pattern) (negated : Bool)
  | behind (width : Nat) (body : Pattern) (negated : Bool)
  | atomic (body : Pattern)
  | anchor (a : Anchor)
  | branch (index : Nat) (yes no : Pattern)
deriving Repr, DecidableEq, Inhabited

namespace Pattern

/-- A place in a text: how many characters stand before it, these in reverse, and what stands
after it. -/
structure Place where
  offset : Nat
  before : Text
  after : Text
deriving Repr, DecidableEq, Inhabited

namespace Place

def step? (test : CharTest) (p : Place) : Option Place :=
  match p.after with
  | c :: rest => if test.passes c then some ⟨p.offset + 1, c :: p.before, rest⟩ else none
  | [] => none

def steps (test : CharTest) : Nat → Place → List Place
  | 0, _ => []
  | n + 1, p =>
    match p.step? test with
    | some q => q :: steps test n q
    | none => []

def passText (rule : LetterRule) : Text → Place → Option Place
  | [], p => some p
  | c :: s, p =>
    match p.after with
    | d :: rest =>
      if rule.fold c == rule.fold d then passText rule s ⟨p.offset + 1, d :: p.before, rest⟩
      else none
    | [] => none

def back? : Nat → Place → Option Place
  | 0, p => some p
  | n + 1, p =>
    match p.before with
    | c :: before => back? n ⟨p.offset - 1, before, c :: p.after⟩
    | [] => none

def textTo (start stop : Place) : Text := start.after.take (stop.offset - start.offset)

end Place

def isWordAt (ascii : Bool) (s : Text) : Bool := s.head?.any (CharClass.word.has ascii)

def Anchor.holds (a : Anchor) (p : Place) : Bool :=
  match a with
  | .textStart => p.before.isEmpty
  | .textEnd => p.after.isEmpty
  | .start ofLines => p.before.isEmpty || (ofLines && p.before.head? == some '\n')
  | .stop ofLines =>
    p.after.isEmpty || if ofLines then p.after.head? == some '\n' else p.after == ['\n']
  | .wordEdge ascii negated =>
    !(p.before.isEmpty && p.after.isEmpty)
      && (isWordAt ascii p.before != isWordAt ascii p.after) != negated

end Pattern

end LitNote
