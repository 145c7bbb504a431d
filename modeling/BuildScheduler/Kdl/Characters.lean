/-!
# Characters of KDL

Blanks, line ends, and what an identifier may hold.
-/

namespace BuildScheduler.Kdl

/-- Blanks within a line. -/
def isBlank (c : Char) : Bool :=
  let n := c.toNat
  n == 0x9 || n == 0x20 || n == 0xA0 || n == 0x1680 || (0x2000 ≤ n && n ≤ 0x200A) || n == 0x202F ||
    n == 0x205F || n == 0x3000

/-- Characters that end a line, alone or after a carriage return. -/
def isLineEnd (c : Char) : Bool :=
  let n := c.toNat
  (0xA ≤ n && n ≤ 0xD) || n == 0x85 || n == 0x2028 || n == 0x2029

/-- Characters that no document holds as they are. -/
def isDisallowed (c : Char) : Bool :=
  let n := c.toNat
  n ≤ 0x8 || (0xE ≤ n && n ≤ 0x1F) || n == 0x7F || (0x200E ≤ n && n ≤ 0x200F) ||
    (0x202A ≤ n && n ≤ 0x202E) || (0x2066 ≤ n && n ≤ 0x2069) || n == 0xFEFF

/-- Characters with a meaning of their own. -/
def isReserved (c : Char) : Bool := "\\/()\x7b\x7d[];\"#=".toList.contains c

def isIdentifierChar (c : Char) : Bool :=
  !isBlank c && !isLineEnd c && !isDisallowed c && !isReserved c

/-- The rest after one line end. -/
def lineEnd? : List Char → Option (List Char)
  | '\r' :: '\n' :: rest => some rest
  | c :: rest => if isLineEnd c then some rest else none
  | [] => none

end BuildScheduler.Kdl
