import LitNote.Text.Basic
import LitNote.Text.Letter

/-!
Percent coding.  A text is coded by the bytes of its UTF-8 form; reading back replaces a byte
sequence that is no UTF-8 by the replacement character, one for each longest beginning of a
well-formed sequence.
-/

namespace LitNote.Text.Percent

def utf8 (c : Char) : List Nat :=
  let n := c.toNat
  if n < 0x80 then [n]
  else if n < 0x800 then [0xC0 + n / 0x40, 0x80 + n % 0x40]
  else if n < 0x10000 then [0xE0 + n / 0x1000, 0x80 + n / 0x40 % 0x40, 0x80 + n % 0x40]
  else [0xF0 + n / 0x40000, 0x80 + n / 0x1000 % 0x40, 0x80 + n / 0x40 % 0x40, 0x80 + n % 0x40]

def hexDigit (n : Nat) : Char := if n < 10 then Char.ofNat (48 + n) else Char.ofNat (55 + n)

def hexValue? (c : Char) : Option Nat :=
  let n := c.toNat
  if 48 ≤ n ∧ n ≤ 57 then some (n - 48)
  else if 65 ≤ n ∧ n ≤ 70 then some (n - 55)
  else if 97 ≤ n ∧ n ≤ 102 then some (n - 87)
  else none

def codeByte (b : Nat) : Text := ['%', hexDigit (b / 16 % 16), hexDigit (b % 16)]

def isPlain (c : Char) : Bool :=
  isAsciiAlphanumeric c || ['-', '_', '.', '!', '~', '*', '\'', '(', ')'].contains c

def encode (s : Text) : Text :=
  s.flatMap fun c => if isPlain c then [c] else (utf8 c).flatMap codeByte

/-- The least and greatest second byte, and the number of bytes after the first, of the sequences
that start with a byte. -/
def sequenceAfter (b : Nat) : Option (Nat × Nat × Nat) :=
  if 0xC2 ≤ b ∧ b ≤ 0xDF then some (0x80, 0xBF, 1)
  else if b = 0xE0 then some (0xA0, 0xBF, 2)
  else if b = 0xED then some (0x80, 0x9F, 2)
  else if 0xE1 ≤ b ∧ b ≤ 0xEF then some (0x80, 0xBF, 2)
  else if b = 0xF0 then some (0x90, 0xBF, 3)
  else if 0xF1 ≤ b ∧ b ≤ 0xF3 then some (0x80, 0xBF, 3)
  else if b = 0xF4 then some (0x80, 0x8F, 3)
  else none

def payload (b : Nat) : Nat :=
  if b < 0xE0 then b % 0x20 else if b < 0xF0 then b % 0x10 else b % 0x08

/-- What has been read of a sequence: the code so far, the bounds of the next byte and the number
of bytes to come. -/
structure Pending where
  code : Nat
  low : Nat
  high : Nat
  missing : Nat

def replacement : Char := Char.ofNat 0xFFFD

def begin (b : Nat) : Text × Option Pending :=
  if b < 0x80 then ([Char.ofNat b], none)
  else match sequenceAfter b with
    | some (low, high, missing) => ([], some ⟨payload b, low, high, missing⟩)
    | none => ([replacement], none)

def advance (p : Pending) (b : Nat) : Text × Option Pending :=
  if p.low ≤ b ∧ b ≤ p.high then
    let code := p.code * 0x40 + b % 0x40
    if p.missing ≤ 1 then ([Char.ofNat code], none)
    else ([], some ⟨code, 0x80, 0xBF, p.missing - 1⟩)
  else
    let (out, next) := begin b
    (replacement :: out, next)

def decodeUtf8From : Option Pending → List Nat → Text
  | none, [] => []
  | some _, [] => [replacement]
  | none, b :: rest =>
    let (out, next) := begin b
    out ++ decodeUtf8From next rest
  | some p, b :: rest =>
    let (out, next) := advance p b
    out ++ decodeUtf8From next rest

def decodeUtf8 (bytes : List Nat) : Text := decodeUtf8From none bytes

def bytes : Text → List Nat
  | [] => []
  | '%' :: a :: b :: rest =>
    match hexValue? a, hexValue? b with
    | some high, some low => (high * 16 + low) :: bytes rest
    | _, _ => '%'.toNat :: bytes (a :: b :: rest)
  | c :: rest => c.toNat :: bytes rest

def isAscii (c : Char) : Bool := c.toNat < 0x80

def closeRun (run rest : Text) : Text := decodeUtf8 (bytes run.reverse) ++ rest

def decodeFrom (run : Text) : Text → Text
  | [] => closeRun run []
  | c :: rest =>
    if isAscii c then decodeFrom (c :: run) rest else closeRun run (c :: decodeFrom [] rest)

/-- Characters beyond ASCII stand for themselves and end a run of percent codes. -/
def decode (s : Text) : Text := decodeFrom [] s

end LitNote.Text.Percent
