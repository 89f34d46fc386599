import LitNote.Text.Casing
import LitNote.Text.Letter
import LitNote.Text.Basic

/-!
Tokens of a date as people write it: words, numbers, blanks and single marks.  A point may belong to
a number or separate its neighbours, which shows only when the whole run has been read.
-/

namespace LitNote.Written

/-- What a run is made of; `points` says that it holds points already. -/
inductive RunKind where
  | word (points : Bool)
  | number (points : Bool)
deriving Repr, DecidableEq, Inhabited

structure Run where
  kind : RunKind
  chars : Text
  letters : Bool
deriving Repr, Inhabited

namespace Run

def lastIsPoint (r : Run) : Bool := r.chars.head? == some '.'

def extend? (r : Run) (c : Char) : Option Run :=
  match r.kind with
  | .word false =>
    if Text.isLetter c then some ⟨.word false, c :: r.chars, true⟩
    else if c == '.' then some ⟨.word true, c :: r.chars, true⟩
    else none
  | .number false =>
    if Text.isDigit c then some ⟨.number false, c :: r.chars, r.letters⟩
    else if c == '.' || (c == ',' && 2 ≤ r.chars.length) then
      some ⟨.number true, c :: r.chars, r.letters⟩
    else none
  | .word true =>
    if c == '.' || Text.isLetter c then some ⟨.word true, c :: r.chars, true⟩
    else if Text.isDigit c && r.lastIsPoint then some ⟨.number true, c :: r.chars, true⟩
    else none
  | .number true =>
    if c == '.' || Text.isDigit c then some ⟨.number true, c :: r.chars, r.letters⟩
    else if Text.isLetter c && r.lastIsPoint then some ⟨.word true, c :: r.chars, r.letters⟩
    else none

def isMark (c : Char) : Bool := c == '.' || c == ','

def splitMarks : Text → List Text
  | [] => [[]]
  | c :: rest =>
    if isMark c then [] :: [c] :: splitMarks rest
    else match splitMarks rest with
      | [] => [[c]]
      | part :: parts => (c :: part) :: parts

def sawLetters (r : Run) (ended : Bool) : Bool :=
  r.letters || (ended && (r.kind == .word true || r.kind == .word false))

/-- The tokens of a run that is complete; `ended` says that another character follows it. -/
def tokens (r : Run) (ended : Bool) : List Text :=
  let s := r.chars.reverse
  let pointed := r.kind == .word true || r.kind == .number true
  let points := (s.filter (· == '.')).length
  let parts :=
    if pointed && (r.sawLetters ended || 1 < points || s.getLast?.any isMark) then
      match splitMarks s with
      | [] => []
      | first :: others => first :: others.filter (!·.isEmpty)
    else [s]
  match parts with
  | [] => []
  | first :: others =>
    let first :=
      if r.kind == .number true && !first.any (· == '.') then
        first.map fun c => if c == ',' then '.' else c
      else first
    first :: others

end Run

def start (c : Char) : Text ⊕ Run :=
  if Text.isLetter c then .inr ⟨.word false, [c], false⟩
  else if Text.isDigit c then .inr ⟨.number false, [c], false⟩
  else if Text.isBlank c then .inl [' ']
  else .inl [c]

def tokensFrom : Option Run → Text → List Text
  | none, [] => []
  | some r, [] => r.tokens false
  | none, c :: rest =>
    match start c with
    | .inl token => token :: tokensFrom none rest
    | .inr r => tokensFrom (some r) rest
  | some r, c :: rest =>
    match r.extend? c with
    | some r => tokensFrom (some r) rest
    | none =>
      r.tokens true ++ match start c with
        | .inl token => token :: tokensFrom none rest
        | .inr r => tokensFrom (some r) rest

def tokens (s : Text) : List Text := tokensFrom none (s.filter (·.toNat ≠ 0))

end LitNote.Written
