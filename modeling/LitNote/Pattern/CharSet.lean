import LitNote.Text.Blank
import LitNote.Text.Casing
import LitNote.Text.Letter

/-!
Sets of characters in patterns, with or without regard to case.
-/

namespace LitNote.Pattern

/-- Lower case letters that share their upper case with others, and those others. -/
def caseTwins : List (Nat × List Nat) :=
  [(0x69, [0x131]), (0x73, [0x17F]), (0xB5, [0x3BC]), (0x131, [0x69]), (0x17F, [0x73]),
   (0x345, [0x3B9, 0x1FBE]), (0x390, [0x1FD3]), (0x3B0, [0x1FE3]), (0x3B2, [0x3D0]),
   (0x3B5, [0x3F5]), (0x3B8, [0x3D1]), (0x3B9, [0x345, 0x1FBE]), (0x3BA, [0x3F0]), (0x3BC, [0xB5]),
   (0x3C0, [0x3D6]), (0x3C1, [0x3F1]), (0x3C2, [0x3C3]), (0x3C3, [0x3C2]), (0x3C6, [0x3D5]),
   (0x3D0, [0x3B2]), (0x3D1, [0x3B8]), (0x3D5, [0x3C6]), (0x3D6, [0x3C0]), (0x3F0, [0x3BA]),
   (0x3F1, [0x3C1]), (0x3F5, [0x3B5]), (0x432, [0x1C80]), (0x434, [0x1C81]), (0x43E, [0x1C82]),
   (0x441, [0x1C83]), (0x442, [0x1C84, 0x1C85]), (0x44A, [0x1C86]), (0x463, [0x1C87]),
   (0x1C80, [0x432]), (0x1C81, [0x434]), (0x1C82, [0x43E]), (0x1C83, [0x441]),
   (0x1C84, [0x442, 0x1C85]), (0x1C85, [0x442, 0x1C84]), (0x1C86, [0x44A]), (0x1C87, [0x463]),
   (0x1C88, [0xA64B]), (0x1E61, [0x1E9B]), (0x1E9B, [0x1E61]), (0x1FBE, [0x345, 0x3B9]),
   (0x1FD3, [0x390]), (0x1FE3, [0x3B0]), (0xA64B, [0x1C88]), (0xFB05, [0xFB06]), (0xFB06, [0xFB05])]

def twinsOf (n : Nat) : List Nat :=
  match caseTwins.find? (·.1 == n) with
  | some (_, twins) => twins
  | none => []

structure LetterRule where
  ignoreCase : Bool
  ascii : Bool
deriving Repr, DecidableEq, Inhabited

inductive CharClass where
  | digit
  | blank
  | word
deriving Repr, DecidableEq, Inhabited

inductive SetItem where
  | char (code : Nat)
  | range (first last : Nat)
  | ofClass (members : CharClass) (negated : Bool)
deriving Repr, DecidableEq, Inhabited

structure CharSet where
  items : List SetItem
  negated : Bool
deriving Repr, DecidableEq, Inhabited

inductive CharTest where
  | any (acrossLines : Bool)
  | letter (code : Nat) (negated : Bool) (rule : LetterRule)
  | oneOf (set : CharSet) (rule : LetterRule)
deriving Repr, DecidableEq, Inhabited

def LetterRule.fold (rule : LetterRule) (c : Char) : Char :=
  if !rule.ignoreCase then c
  else if rule.ascii then (if c.toNat < 128 then c.toLower else c)
  else Text.lowerChar c

def LetterRule.like (rule : LetterRule) (code : Nat) : List Nat :=
  if rule.ignoreCase && !rule.ascii then code :: twinsOf code else [code]

def lowerPreimages (c : Char) : List Char :=
  let n := c.toNat
  let ascii := if 97 ≤ n ∧ n ≤ 122 then [Char.ofNat (n - 32)] else []
  let others := Text.lowerRuns.filterMap fun run =>
    let m := ((n : Int) - run.shift).toNat
    if 128 ≤ m && run.covers m then some (Char.ofNat m) else none
  let dotted := if n = 105 then [Char.ofNat 0x130] else []
  (if Text.lowerChar c == c then [c] else []) ++ ascii ++ others ++ dotted

def LetterRule.variants (rule : LetterRule) (c : Char) : List Nat :=
  if !rule.ignoreCase then [c.toNat]
  else if rule.ascii then
    if Text.isAsciiLetter c then [c.toLower.toNat, c.toUpper.toNat] else [c.toNat]
  else (rule.like (Text.lowerChar c).toNat).flatMap fun code =>
    (lowerPreimages (Char.ofNat code)).map Char.toNat

def LetterRule.foldCode (rule : LetterRule) (code : Nat) : Nat :=
  if code.isValidChar then (rule.fold (Char.ofNat code)).toNat else code

def LetterRule.same (rule : LetterRule) (code : Nat) (c : Char) : Bool :=
  (rule.like (rule.foldCode code)).contains (rule.fold c).toNat

def isAsciiBlank (c : Char) : Bool := (9 ≤ c.toNat && c.toNat ≤ 13) || c.toNat == 32

def CharClass.has (members : CharClass) (ascii : Bool) (c : Char) : Bool :=
  match members with
  | .digit => if ascii then Text.isAsciiDigit c else Text.isDecimalDigit c
  | .blank => if ascii then isAsciiBlank c else Text.isBlank c
  | .word => if ascii then Text.isAsciiWordChar c else Text.isWordChar c

def basicPlaneEnd : Nat := 0x10000

def upperChar (c : Char) : Char := (Text.upperOf c).headD c

/-- Whether a member of a set lets `c` in.  Where case is ignored, a member beyond the basic plane
is met by a folded letter only, and a range that ends there also by the upper case of one. -/
def SetItem.has (rule : LetterRule) (item : SetItem) (c : Char) : Bool :=
  match item with
  | .char code =>
    if code < basicPlaneEnd then rule.same code c else (rule.fold c).toNat == code
  | .range first last =>
    let within := fun (n : Nat) => first ≤ n && n ≤ last
    (rule.variants c).any within
      || (rule.ignoreCase && basicPlaneEnd ≤ last && within (upperChar (rule.fold c)).toNat)
  | .ofClass members negated => members.has rule.ascii c != negated

def CharSet.has (set : CharSet) (rule : LetterRule) (c : Char) : Bool :=
  set.items.any (·.has rule c) != set.negated

def CharTest.passes (test : CharTest) (c : Char) : Bool :=
  match test with
  | .any acrossLines => acrossLines || c != '\n'
  | .letter code negated rule => rule.same code c != negated
  | .oneOf set rule => set.has rule c

def LetterRule.hasCases (rule : LetterRule) (c : Char) : Bool :=
  if rule.ascii then Text.isAsciiLetter c
  else Text.lowerChar c != c || Text.upperOf c != [c]

def SetItem.hasCases (rule : LetterRule) : SetItem → Bool
  | .char code => rule.hasCases (Char.ofNat code)
  | .range first last =>
    basicPlaneEnd ≤ last
      || (List.range (last - first + 1)).any fun n => rule.hasCases (Char.ofNat (first + n))
  | .ofClass _ _ => false

end LitNote.Pattern
