import LitNote.Value.Basic

/-!
Places within a value.
-/

namespace LitNote

/-- Where a part of a value stands: keys and positions from the outside in. -/
abbrev Place := List Value

end LitNote
