import LitNote.Text.Basic

/-!
Bytes written with 64 characters, each of which stands for six bits.  Characters beyond these are
passed over, and equals signs end the text where they fill up a group of four.
-/

namespace LitNote.Text.Base64

def value? (c : Char) : Option Nat :=
  let n := c.toNat
  if 65 ≤ n ∧ n ≤ 90 then some (n - 65)
  else if 97 ≤ n ∧ n ≤ 122 then some (n - 71)
  else if 48 ≤ n ∧ n ≤ 57 then some (n + 4)
  else if c = '+' then some 62
  else if c = '/' then some 63
  else none

/-- A group of four in reading: how many of its characters have come, the bits of the last one that
no byte has taken, and the equals signs after it. -/
structure Group where
  count : Nat
  bits : Nat
  pads : Nat
deriving Repr, DecidableEq, Inhabited

def Group.add (g : Group) (value : Nat) : Group × Option UInt8 :=
  match g.count with
  | 0 => (⟨1, value, 0⟩, none)
  | 1 => (⟨2, value % 16, 0⟩, some (UInt8.ofNat (g.bits * 4 + value / 16)))
  | 2 => (⟨3, value % 4, 0⟩, some (UInt8.ofNat (g.bits * 16 + value / 4)))
  | _ => (⟨0, 0, 0⟩, some (UInt8.ofNat (g.bits * 64 + value)))

def bytesFrom (g : Group) : Text → Option (List UInt8)
  | [] => if g.count = 0 then some [] else none
  | c :: rest =>
    if c = '=' then
      if g.count < 2 then bytesFrom g rest
      else if 4 ≤ g.count + g.pads + 1 then some []
      else bytesFrom { g with pads := g.pads + 1 } rest
    else
      match value? c with
      | none => bytesFrom g rest
      | some value =>
        match g.add value with
        | (g, none) => bytesFrom g rest
        | (g, some octet) => (bytesFrom g rest).map (octet :: ·)

def decode (s : Text) : Option (List UInt8) := bytesFrom ⟨0, 0, 0⟩ s

def charOf (n : Nat) : Char :=
  if n < 26 then Char.ofNat (n + 65)
  else if n < 52 then Char.ofNat (n + 71)
  else if n < 62 then Char.ofNat (n - 4)
  else if n = 62 then '+'
  else '/'

def encode : List UInt8 → Text
  | [] => []
  | [a] => [charOf (a.toNat / 4), charOf (a.toNat % 4 * 16), '=', '=']
  | [a, b] => [charOf (a.toNat / 4), charOf (a.toNat % 4 * 16 + b.toNat / 16),
      charOf (b.toNat % 16 * 4), '=']
  | a :: b :: c :: rest => charOf (a.toNat / 4) :: charOf (a.toNat % 4 * 16 + b.toNat / 16) ::
      charOf (b.toNat % 16 * 4 + c.toNat / 64) :: charOf (c.toNat % 64) :: encode rest

def lineLength : Nat := 76

def inLines (left : Nat) : Text → Text
  | [] => []
  | [c] => [c, '\n']
  | c :: rest =>
    if left = 1 then c :: '\n' :: inLines lineLength rest else c :: inLines (left - 1) rest

def encodeLines (octets : List UInt8) : Text := inLines lineLength (encode octets)

end LitNote.Text.Base64
