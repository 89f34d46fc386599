import LitNote.Pattern.CharSet
import LitNote.Text.Basic

/-!
The signs that the notation of patterns is made of, and the flags that stand in it.
-/

namespace LitNote.Pattern

inductive Fault where
  | malformed
  | refused
deriving Repr, DecidableEq, Inhabited

/-- A backslash and the character after it are one sign. -/
inductive Sign where
  | char (c : Char)
  | escaped (c : Char)
  | dangling
deriving Repr, DecidableEq, Inhabited

namespace Sign

def ofText : Text → List Sign
  | [] => []
  | ['\\'] => [.dangling]
  | '\\' :: c :: rest => .escaped c :: ofText rest
  | c :: rest => .char c :: ofText rest

def plain? : Sign → Option Char
  | .char c => some c
  | _ => none

def spanUntil (stop : Char) : List Sign → Option (Text × List Sign)
  | [] => none
  | .char c :: rest =>
    if c == stop then some ([], rest) else (spanUntil stop rest).map fun (s, r) => (c :: s, r)
  | .escaped c :: rest => (spanUntil stop rest).map fun (s, r) => ('\\' :: c :: s, r)
  | .dangling :: _ => none

def afterLine : List Sign → List Sign
  | [] => []
  | .char '\n' :: rest => rest
  | .dangling :: rest => .dangling :: rest
  | _ :: rest => afterLine rest

end Sign

structure Flags where
  ignoreCase : Bool
  multiline : Bool
  dotAll : Bool
  verbose : Bool
  ascii : Bool
  unicode : Bool
  template : Bool
deriving Repr, DecidableEq, Inhabited

namespace Flags

def none : Flags := ⟨false, false, false, false, false, false, false⟩

def ofLetter? (c : Char) : Option Flags :=
  match c with
  | 'i' => some { none with ignoreCase := true }
  | 'm' => some { none with multiline := true }
  | 's' => some { none with dotAll := true }
  | 'x' => some { none with verbose := true }
  | 'a' => some { none with ascii := true }
  | 'u' => some { none with unicode := true }
  | 't' => some { none with template := true }
  | _ => Option.none

def combine (f : Bool → Bool → Bool) (a b : Flags) : Flags :=
  ⟨f a.ignoreCase b.ignoreCase, f a.multiline b.multiline, f a.dotAll b.dotAll,
    f a.verbose b.verbose, f a.ascii b.ascii, f a.unicode b.unicode, f a.template b.template⟩

def union (a b : Flags) : Flags := combine or a b

def without (a b : Flags) : Flags := combine (fun x y => x && !y) a b

def meets (a b : Flags) : Bool := combine and a b != none

def within (outer add drop : Flags) : Flags :=
  let outer := if add.ascii || add.unicode then { outer with ascii := false, unicode := false }
    else outer
  (outer.union add).without drop

def rule (f : Flags) : LetterRule := ⟨f.ignoreCase, f.ascii⟩

end Flags

end LitNote.Pattern
