import LitNote.Text.Basic
import LitNote.Text.Digit
import LitNote.Text.Name.Alias
import LitNote.Text.Name.Alphabets
import LitNote.Text.Name.Ancient
import LitNote.Text.Name.Inscriptions
import LitNote.Text.Name.LateScripts
import LitNote.Text.Name.Pictures
import LitNote.Text.Name.Scripts
import LitNote.Text.Name.Signs
import LitNote.Text.Name.Syllables
import LitNote.Text.Name.Writings

/-!
Characters by their names.  Case does not count, save in the names that are made by rule: those of
Hangul syllables, from the names of their letters, and of ideographs, from their codes.
-/

namespace LitNote.Text.Name

/-- The names of a run as they are written: how many words are kept, and what follows them. -/
def written (names : Text) : List (Nat × Text) :=
  (names.foldr (fun c (name, others) =>
    if 'a' ≤ c then ([], (c.toNat - 97, name) :: others) else (c :: name, others)) ([], [])).2

def words (name : Text) : List Text := if name.isEmpty then [] else splitAtChar ' ' name

def position? (name : List Text) : List Text → List (Nat × Text) → Option Nat
  | _, [] => none
  | before, (kept, rest) :: more =>
    let whole := before.take kept ++ words rest
    if whole == name then some 0 else (position? name whole more).map (· + 1)

def Run.code? (run : Run) (name : List Text) : Option Nat :=
  (position? name [] (written (run.names.flatMap String.toList))).map (run.first + ·)

def runs : List Run :=
  alphabets ++ syllables ++ signs ++ scripts ++ lateScripts ++ ancient ++ inscriptions ++ writings
    ++ pictures

def codeDigits (code : Nat) : Text :=
  let digits := (Nat.toDigits 16 code).map Char.toUpper
  List.replicate (4 - digits.length) '0' ++ digits

def numbered : List (String × CharTable) :=
  [("CJK COMPATIBILITY IDEOGRAPH-", [(0xF900, 0xFA6D), (0xFA70, 0xFAD9), (0x2F800, 0x2FA1D)]),
   ("KHITAN SMALL SCRIPT CHARACTER-", [(0x18B00, 0x18CD5)]),
   ("NUSHU CHARACTER-", [(0x1B170, 0x1B2FB)])]

def after? (start s : Text) : Option Text :=
  if start.isPrefixOf s then some (s.drop start.length) else none

def hexValue? (s : Text) : Option Nat :=
  s.foldl (fun value c => do
    let n ← value
    if isAsciiDigit c then some (n * 16 + (c.toNat - 48))
    else if 'A' ≤ c && c ≤ 'F' then some (n * 16 + (c.toNat - 55))
    else none) (some 0)

def numberedCode? (name : Text) : Option Nat :=
  numbered.findSome? fun (start, codes) => do
    let digits ← after? start.toList name
    let code ← hexValue? digits
    if codes.covers code && codeDigits code == digits then some code else none

def ideographs : CharTable :=
  [(0x3400, 0x4DBF), (0x4E00, 0x9FFF), (0x20000, 0x2A6DF), (0x2A700, 0x2B738), (0x2B740, 0x2B81D),
   (0x2B820, 0x2CEA1), (0x2CEB0, 0x2EBE0), (0x30000, 0x3134A)]

def ideographCode? (digits : Text) : Option Nat := do
  let code ← hexValue? digits
  if (digits.length == 4 || digits.length == 5) && ideographs.covers code then some code else none

def initialLetters : List String :=
  ["G", "GG", "N", "D", "DD", "R", "M", "B", "BB", "S", "SS", "", "J", "JJ", "C", "K", "T", "P",
   "H"]

def vowels : List String :=
  ["A", "AE", "YA", "YAE", "EO", "E", "YEO", "YE", "O", "WA", "WAE", "OE", "YO", "U", "WEO", "WE",
   "WI", "YU", "EU", "YI", "I"]

def finalLetters : List String :=
  ["", "G", "GG", "GS", "N", "NJ", "NH", "D", "L", "LG", "LM", "LB", "LS", "LT", "LP", "LH", "M",
   "B", "BS", "S", "SS", "NG", "J", "C", "K", "T", "P", "H"]

def longest? (letters : List String) (s : Text) : Option (Nat × Text) :=
  letters.zipIdx.foldl (fun found (letter, i) =>
    match after? letter.toList s, found with
    | some rest, some (_, shorter) =>
      if rest.length < shorter.length then some (i, rest) else found
    | some rest, none => some (i, rest)
    | none, _ => found) none

def syllableCode? (letters : Text) : Option Nat := do
  let (i, rest) ← longest? initialLetters letters
  let (v, rest) ← longest? vowels rest
  let (f, rest) ← longest? finalLetters rest
  if rest.isEmpty then
    some (0xAC00 + (i * vowels.length + v) * finalLetters.length + f)
  else none

def listedCode? (name : Text) : Option Nat :=
  let parts := words name
  (aliases.find? (·.1.toList == name)).map (·.2)
    <|> numberedCode? name
    <|> runs.findSome? (·.code? parts)

def code? (name : Text) : Option Nat :=
  match after? "HANGUL SYLLABLE ".toList name, after? "CJK UNIFIED IDEOGRAPH-".toList name with
  | some letters, _ => syllableCode? letters
  | none, some digits => ideographCode? digits
  | none, none => listedCode? (name.map Char.toUpper)

end LitNote.Text.Name
