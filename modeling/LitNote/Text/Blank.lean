/-!
Blank characters: spaces, line ends and separators of every script.
-/

namespace LitNote.Text

/-- The space, the ASCII controls that move the cursor or separate records, and the spaces and line
separators beyond ASCII. -/
def isBlank (c : Char) : Bool :=
  let n := c.toNat
  (9 ≤ n && n ≤ 13) || (28 ≤ n && n ≤ 32) || n == 0x85 || n == 0xA0 || n == 0x1680
    || (0x2000 ≤ n && n ≤ 0x200A) || n == 0x2028 || n == 0x2029 || n == 0x202F || n == 0x205F
    || n == 0x3000

end LitNote.Text
