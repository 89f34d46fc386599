import LitNote.Text.Blank

/-!
Texts are lists of characters: a count, a cut and an index are in code points.  The operations here
are the plain ones: trimming, cutting at separators, replacing, slicing.
-/

namespace LitNote

abbrev Text := List Char

namespace Text

def trimStart (s : Text) : Text := s.dropWhile isBlank

def trimEnd (s : Text) : Text := (s.reverse.dropWhile isBlank).reverse

def trim (s : Text) : Text := trimEnd (trimStart s)

def contains (part : Text) : Text → Bool
  | [] => part.isEmpty
  | c :: rest => part.isPrefixOf (c :: rest) || contains part rest

def splitBy (p : Char → Bool) : Text → List Text
  | [] => [[]]
  | c :: rest =>
    if p c then [] :: splitBy p rest
    else match splitBy p rest with
      | [] => [[c]]
      | piece :: pieces => (c :: piece) :: pieces

def splitAtChar (sep : Char) (s : Text) : List Text := splitBy (· == sep) s

/-- The pieces between maximal runs of characters that satisfy `p`; a run at an end of the text
leaves an empty piece there. -/
def splitRuns (p : Char → Bool) : Text → List Text
  | [] => [[]]
  | c :: rest =>
    if p c then
      match rest with
      | [] => [[], []]
      | d :: _ => if p d then splitRuns p rest else [] :: splitRuns p rest
    else match splitRuns p rest with
      | [] => [[c]]
      | piece :: pieces => (c :: piece) :: pieces

def cutAt (sep : Char) : Text → Text × Option Text
  | [] => ([], none)
  | c :: rest =>
    if c == sep then ([], some rest)
    else
      let (before, after) := cutAt sep rest
      (c :: before, after)

/-- The pieces between occurrences of the non-empty text `sep`, found from the left.  The number
counts the characters of the last occurrence that are still to be passed over. -/
def splitOnFrom (sep : Text) : Nat → Text → List Text
  | _, [] => [[]]
  | skip + 1, _ :: rest => splitOnFrom sep skip rest
  | 0, c :: rest =>
    if sep.isPrefixOf (c :: rest) then [] :: splitOnFrom sep (sep.length - 1) rest
    else match splitOnFrom sep 0 rest with
      | [] => [[c]]
      | piece :: pieces => (c :: piece) :: pieces

def splitOn (sep s : Text) : List Text := splitOnFrom sep 0 s

def join (sep : Text) (pieces : List Text) : Text := sep.intercalate pieces

/-- Every occurrence of `find`, from the left, becomes `new`.  An empty `find` occurs before every
character and at the end. -/
def replaceAll (find new s : Text) : Text :=
  if find.isEmpty then new ++ s.flatMap (fun c => c :: new) else join new (splitOn find s)

def position (length : Nat) (i : Int) : Nat :=
  if i < 0 then (length + i).toNat else min i.toNat length

def slice {α : Type} (xs : List α) (start : Int) (stop : Option Int) : List α :=
  let first := position xs.length start
  let last := match stop with
    | some i => position xs.length i
    | none => xs.length
  (xs.drop first).take (last - first)

def takeTo {α : Type} (xs : List α) (stop : Int) : List α := xs.take (position xs.length stop)

def has (s : Text) (c : Char) : Bool := s.any (· == c)

def unifyLineEnds : Text → Text
  | [] => []
  | '\r' :: '\n' :: rest => '\n' :: unifyLineEnds rest
  | c :: rest => (if c == '\r' then '\n' else c) :: unifyLineEnds rest

theorem splitBy_ne_nil (p : Char → Bool) (s : Text) : splitBy p s ≠ [] := by
  cases s with
  | nil => simp [splitBy]
  | cons c rest =>
    unfold splitBy
    split
    · simp
    · split <;> simp

end Text

end LitNote
