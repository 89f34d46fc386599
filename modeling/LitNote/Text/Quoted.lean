import LitNote.Text.Basic
import LitNote.Text.Printable

/-!
The quoted notation of texts and bytes in messages.  Apostrophes stand around it unless it holds an
apostrophe and no quotation mark; characters without a visible form are written by their code.
-/

namespace LitNote.Text

def hexDigit (n : Nat) : Char := if n < 10 then Char.ofNat (48 + n) else Char.ofNat (87 + n)

def hexDigits : Nat → Nat → Text
  | 0, _ => []
  | width + 1, n => hexDigits width (n / 16) ++ [hexDigit (n % 16)]

def quotedChar (quote c : Char) : Text :=
  if c == quote || c == '\\' then ['\\', c]
  else if c == '\t' then ['\\', 't']
  else if c == '\r' then ['\\', 'r']
  else if c == '\n' then ['\\', 'n']
  else if isPrintable c then [c]
  else if c.toNat < 0x100 then '\\' :: 'x' :: hexDigits 2 c.toNat
  else if c.toNat < 0x10000 then '\\' :: 'u' :: hexDigits 4 c.toNat
  else '\\' :: 'U' :: hexDigits 8 c.toNat

def quoteFor (s : Text) : Char := if s.has '\'' && !s.has '"' then '"' else '\''

def quoted (s : Text) : Text :=
  let quote := quoteFor s
  quote :: s.flatMap (quotedChar quote) ++ [quote]

def quotedByte (quote : Char) (octet : UInt8) : Text :=
  if octet.toNat < 128 then quotedChar quote (Char.ofNat octet.toNat)
  else '\\' :: 'x' :: hexDigits 2 octet.toNat

def quotedBytes (octets : List UInt8) : Text :=
  let quote := quoteFor (octets.map fun octet => Char.ofNat octet.toNat)
  'b' :: quote :: octets.flatMap (quotedByte quote) ++ [quote]

theorem hexDigits_length (width n : Nat) : (hexDigits width n).length = width := by
  induction width generalizing n with
  | zero => rfl
  | succ width ih => simp [hexDigits, ih]

end LitNote.Text
