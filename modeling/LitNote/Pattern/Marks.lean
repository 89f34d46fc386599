import LitNote.Pattern.Basic

/-!
What is known of the groups on the way through a pattern.  Starts and ends are noted apart, so that
a group may have begun again while its last end still stands.
-/

namespace LitNote.Pattern

/-- The places noted so far: the start of group `i` stands at `2 i - 2` and its end at `2 i - 1`.
What lies beyond the length has not been noted. -/
abbrev Marks := List (Option Place)

namespace Marks

def note (marks : Marks) (i : Nat) (p : Place) : Marks :=
  marks.take i ++ List.replicate (i - marks.length) none ++ some p :: marks.drop (i + 1)

def noteStart (marks : Marks) (group : Nat) (p : Place) : Marks := marks.note (2 * group - 2) p

def noteEnd (marks : Marks) (group : Nat) (p : Place) : Marks := marks.note (2 * group - 1) p

def text? (marks : Marks) (group : Nat) : Option Text :=
  match marks[2 * group - 2]?, marks[2 * group - 1]? with
  | some (some p), some (some q) =>
    if p.offset ≤ q.offset then some (p.textTo q) else none
  | _, _ => none

def crossed : Marks → Bool
  | some p :: some q :: rest => q.offset < p.offset || crossed rest
  | _ :: _ :: rest => crossed rest
  | _ => false

/-- The marks to go on with after an attempt has failed.  Within a loop all is as it was before.
Elsewhere what was not noted before is forgotten, and the rest stays as the attempt left it. -/
def restore (looping : Bool) (saved left : Marks) : Marks :=
  if looping then saved else left.take saved.length

end Marks

end LitNote.Pattern
