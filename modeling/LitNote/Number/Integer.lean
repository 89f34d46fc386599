import LitNote.Text.Digit
import LitNote.Failure

/-!
Integers as text.  Digits of every script are read, single underscores may stand between digits,
and numbers of more than `maxDigits` digits are neither read nor written.
-/

namespace LitNote

def natText (n : Nat) : Text := Nat.toDigits 10 n

def paddedNat (width n : Nat) : Text :=
  let digits := natText n
  List.replicate (width - digits.length) '0' ++ digits

namespace Integer

def maxDigits : Nat := 4300

def text (n : Int) : Text := if n < 0 then '-' :: natText n.natAbs else natText n.natAbs

def tooLong (n : Int) : Bool := Nat.pow 10 maxDigits ≤ n.natAbs

def write (n : Int) : Except Failure Text :=
  if tooLong n then .error .tooManyDigits else .ok (text n)

def ofDigits (digits : List Nat) : Nat := digits.foldl (fun n d => n * 10 + d) 0

def spanDigits : Text → List Nat × Text
  | [] => ([], [])
  | c :: rest =>
    match digitValue? c with
    | some d => let (ds, after) := spanDigits rest; (d :: ds, after)
    | none => ([], c :: rest)
where digitValue? (c : Char) : Option Nat := Text.digitValue? c

def ofRun (negative : Bool) (digits : List Nat) : Except Failure Int :=
  if digits.length > maxDigits then .error (.tooLongInteger digits.length)
  else .ok (if negative then -(ofDigits digits : Int) else ofDigits digits)

def sign : Text → Bool × Text
  | '-' :: rest => (true, rest)
  | '+' :: rest => (false, rest)
  | rest => (false, rest)

def leading (s : Text) : Except Failure (Option Int) :=
  let (negative, rest) := sign (Text.trimStart s)
  match spanDigits rest with
  | ([], _) => .ok none
  | (digits, _) => (ofRun negative digits).map some

def digitGroups : Text → Option (List Nat)
  | [] => none
  | c :: rest =>
    match Text.digitValue? c with
    | none => none
    | some d =>
      match rest with
      | [] => some [d]
      | '_' :: more => (digitGroups more).map (d :: ·)
      | more => (digitGroups more).map (d :: ·)

/-- Blanks that may surround an integer: those that separate records may not. -/
def isPadding (c : Char) : Bool := Text.isBlank c && !(28 ≤ c.toNat && c.toNat ≤ 31)

def dropPadding (s : Text) : Text :=
  ((s.dropWhile isPadding).reverse.dropWhile isPadding).reverse

def read (s : Text) : Except Failure Int :=
  let (negative, rest) := sign (dropPadding s)
  match digitGroups rest with
  | none => .error (.noInteger 10 s)
  | some digits => ofRun negative digits

def digitOrLetter? (c : Char) : Option Nat :=
  let n := c.toNat
  if 65 ≤ n ∧ n ≤ 90 then some (n - 55)
  else if 97 ≤ n ∧ n ≤ 122 then some (n - 87)
  else Text.digitValue? c

def baseDigit? (base : Nat) (c : Char) : Option Nat := (digitOrLetter? c).filter (· < base)

def baseMark? (base : Nat) : Option Char :=
  match base with
  | 2 => some 'b'
  | 8 => some 'o'
  | 16 => some 'x'
  | _ => none

def dropMark (base : Nat) (s : Text) : Text :=
  match s with
  | '0' :: c :: rest => if baseMark? base == some c.toLower then rest else s
  | s => s

/-- Reads a whole text without underscores as an integer to a base that is a power of two; its
length does not matter. -/
def readBase (base : Nat) (s : Text) : Except Failure Int :=
  let (negative, rest) := sign (dropPadding s)
  match (dropMark base rest).mapM (baseDigit? base) with
  | some (d :: ds) =>
    let n : Nat := (d :: ds).foldl (fun n d => n * base + d) 0
    .ok (if negative then -n else n)
  | _ => .error (.noInteger base s)

end Integer

end LitNote
