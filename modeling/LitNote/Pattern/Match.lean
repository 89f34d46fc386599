import LitNote.Pattern.Marks

/-!
Matching.  The choices of a pattern are tried in order, each with what has to match after it.  An
attempt that fails hands on its marks, since not all of them are taken back.
-/

namespace LitNote.Pattern

structure Outcome where
  stop : Option Place
  marks : Marks
deriving Repr, Inhabited

def Outcome.failed (marks : Marks) : Outcome := ⟨none, marks⟩

abbrev Goal := Place → Marks → Outcome

def done : Goal := fun p marks => ⟨some p, marks⟩

def orElse (looping : Bool) (marks : Marks) (first second : Marks → Outcome) : Outcome :=
  let outcome := first marks
  if outcome.stop.isSome then outcome else second (marks.restore looping outcome.marks)

def firstOf (looping : Bool) (next : Goal) : List Place → Marks → Outcome
  | [], marks => .failed marks
  | p :: places, marks => orElse looping marks (next p) (firstOf looping next places)

def repeatOne (looping : Bool) (least : Nat) (most : Option Nat) (greed : Greed)
    (test : CharTest) (next : Goal) : Goal := fun p marks =>
  let places := (p :: p.steps test (most.getD p.after.length)).drop least
  match greed with
  | .most => firstOf looping next places.reverse marks
  | .least => firstOf looping next places marks
  | .all =>
    match places.getLast? with
    | some q => next q marks
    | none => .failed marks

/-- Whether one more repetition may be tried: the last one must have moved on. -/
def mayRepeat (most : Option Nat) (last : Option Nat) (p : Place) : Bool :=
  most != some 0 && last != some p.offset

/-- Repeats `body`; the first number bounds the repetitions, `last` is where the last one beyond the
required ones began. -/
def repeatMost (body : Goal → Goal) (next : Goal) : Nat → Nat → Option Nat → Option Nat → Goal
  | 0, _, _, _ => next
  | fuel + 1, least + 1, most, last =>
    body (repeatMost body next fuel least (most.map (· - 1)) last)
  | fuel + 1, 0, most, last => fun p marks =>
    if mayRepeat most last p then
      orElse true marks
        (body (repeatMost body next fuel 0 (most.map (· - 1)) (some p.offset)) p) (next p)
    else next p marks

def repeatLeast (looping : Bool) (body : Goal → Goal) (next : Goal) :
    Nat → Nat → Option Nat → Option Nat → Goal
  | 0, _, _, _ => next
  | fuel + 1, least + 1, most, last =>
    body (repeatLeast looping body next fuel least (most.map (· - 1)) last)
  | fuel + 1, 0, most, last => fun p marks =>
    orElse looping marks (next p) fun marks =>
      if mayRepeat most last p then
        body (repeatLeast looping body next fuel 0 (most.map (· - 1)) (some p.offset)) p marks
      else .failed marks

def repeatAll (body : Goal → Goal) : Nat → Nat → Option Nat → Option Nat → Goal
  | 0, _, _, _ => done
  | fuel + 1, least + 1, most, last => fun p marks =>
    let outcome := body done p marks
    match outcome.stop with
    | some q => repeatAll body fuel least (most.map (· - 1)) last q outcome.marks
    | none => outcome
  | fuel + 1, 0, most, last => fun p marks =>
    if mayRepeat most last p then
      let outcome := body done p marks
      match outcome.stop with
      | some q => repeatAll body fuel 0 (most.map (· - 1)) (some p.offset) q outcome.marks
      | none => done p marks
    else done p marks

def repetitions (least : Nat) (p : Place) : Nat := least + p.after.length + 2

def Outcome.andThen (outcome : Outcome) (next : Goal) : Outcome :=
  match outcome.stop with
  | some q => next q outcome.marks
  | none => outcome

/-- Matches a pattern and then the goal.  `looping` tells whether this happens within a repetition
of more than single characters whose rounds may be taken back. -/
def run (looping : Bool) : Pattern → Goal → Goal
  | .nothing, next => next
  | .one test, next => fun p marks =>
    match p.step? test with
    | some q => next q marks
    | none => .failed marks
  | .seq a b, next => a.run looping (b.run looping next)
  | .alt a b, next => fun p marks =>
    orElse looping marks (a.run looping next p) fun marks =>
      orElse looping marks (b.run looping next p) .failed
  | .repeated least most greed (.one test), next => repeatOne looping least most greed test next
  | .repeated least most .most body, next => fun p marks =>
    repeatMost (body.run true) next (repetitions least p) least most none p marks
  | .repeated least most .least body, next => fun p marks =>
    repeatLeast looping (body.run true) next (repetitions least p) least most none p marks
  | .repeated least most .all body, next => fun p marks =>
    (repeatAll (body.run looping) (repetitions least p) least most none p marks).andThen next
  | .group index body, next => fun p marks =>
    body.run looping (fun q marks => next q (marks.noteEnd index q)) p (marks.noteStart index p)
  | .same index rule, next => fun p marks =>
    match (marks.text? index).bind fun s => p.passText rule s with
    | some q => next q marks
    | none => .failed marks
  | .ahead body false, next => fun p marks =>
    (body.run looping done p marks).andThen fun _ => next p
  | .ahead body true, next => fun p marks =>
    let outcome := body.run looping done p marks
    if outcome.stop.isSome then .failed outcome.marks
    else next p (marks.restore looping outcome.marks)
  | .behind width body false, next => fun p marks =>
    match p.back? width with
    | some q => (body.run looping done q marks).andThen fun _ => next p
    | none => .failed marks
  | .behind width body true, next => fun p marks =>
    match p.back? width with
    | some q =>
      let outcome := body.run looping done q marks
      if outcome.stop.isSome then .failed outcome.marks
      else next p (marks.restore looping outcome.marks)
    | none => next p marks
  | .atomic body, next => fun p marks => (body.run looping done p marks).andThen next
  | .anchor a, next => fun p marks => if Anchor.holds a p then next p marks else .failed marks
  | .branch index yes no, next => fun p marks =>
    if (marks.text? index).isSome then yes.run looping next p marks
    else no.run looping next p marks

/-- The match at a place; `advancing` asks that it is not empty. -/
def matchAt (pattern : Pattern) (advancing : Bool) (p : Place) : Outcome :=
  let accept : Goal := fun q marks =>
    if advancing && q.offset == p.offset then .failed marks else done q marks
  pattern.run false accept p []

end LitNote.Pattern
