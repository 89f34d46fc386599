/-!
How the names of characters are written down: in runs of consecutive codes, where a name may begin
with words of the name before it.
-/

namespace LitNote.Text.Name

/-- The names of consecutive codes, one after the other and cut into pieces.  Each name is a lower
case letter, which tells how many words of the name before are kept, and the words that follow
these. -/
structure Run where
  first : Nat
  names : List String
deriving Repr, Inhabited

end LitNote.Text.Name
