import LitNote.Pattern.Match

/-!
The search for matches, and their replacement.
-/

namespace LitNote.Pattern

/-- The set that a match has to begin with, if there is one, with the classes of characters taken
as they hold outside all groups.  A search passes over places without such a character. -/
def leadingSet? (ascii : Bool) : Pattern → Option CharTest
  | .one (.oneOf set rule) =>
    if rule.ignoreCase && set.items.any (·.hasCases rule) then none
    else some (.oneOf set ⟨false, ascii⟩)
  | .seq first _ => first.leadingSet? ascii
  | .group _ body => body.leadingSet? ascii
  | _ => none

structure Searcher where
  pattern : Pattern
  lead : Option CharTest
deriving Repr, Inhabited

namespace Searcher

def matchAt (searcher : Searcher) (advancing : Bool) (p : Place) : Outcome :=
  if searcher.lead.all fun test => (p.step? test).isSome then
    searcher.pattern.matchAt advancing p
  else .failed []

structure Found where
  start : Place
  stop : Place
  marks : Marks
deriving Repr, Inhabited

def search (searcher : Searcher) (advancing : Bool) (offset : Nat) (before : Text) :
    Text → Option Found
  | [] =>
    let p : Place := ⟨offset, before, []⟩
    let outcome := searcher.matchAt advancing p
    outcome.stop.map fun q => ⟨p, q, outcome.marks⟩
  | c :: rest =>
    let p : Place := ⟨offset, before, c :: rest⟩
    let outcome := searcher.matchAt advancing p
    match outcome.stop with
    | some q => some ⟨p, q, outcome.marks⟩
    | none => searcher.search false (offset + 1) (c :: before) rest

/-- Puts `new` in the place of every match.  After an empty match the next one may not be empty at
the same place.  A match with a group that ends before it starts makes the whole fail.  The first
argument bounds the number of matches. -/
def replaceFrom (searcher : Searcher) (new : Text) : Nat → Bool → Place → Option Text
  | 0, _, p => some p.after
  | fuel + 1, advancing, p =>
    match searcher.search advancing p.offset p.before p.after with
    | none => some p.after
    | some found =>
      if found.marks.crossed then none
      else
        let empty := found.start.offset == found.stop.offset
        (searcher.replaceFrom new fuel empty found.stop).map fun rest =>
          p.textTo found.start ++ new ++ rest

def replace? (searcher : Searcher) (new s : Text) : Option Text :=
  searcher.replaceFrom new (2 * s.length + 2) false ⟨0, [], s⟩

end Searcher

end LitNote.Pattern
