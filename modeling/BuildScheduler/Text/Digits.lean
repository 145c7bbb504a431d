/-!
# Digits

The values of decimal and hexadecimal digits, and the digits of values.
-/

namespace BuildScheduler.Text

def isDigit (c : Char) : Bool := '0' ≤ c && c ≤ '9'

def digitValue (c : Char) : Nat := c.toNat - 48

/-- The value of characters read as decimal digits. -/
def natural (ds : List Char) : Nat := ds.foldl (fun n c => 10 * n + digitValue c) 0

def hexValue? (c : Char) : Option Nat :=
  if '0' ≤ c ∧ c ≤ '9' then some (c.toNat - 48)
  else if 'a' ≤ c ∧ c ≤ 'f' then some (c.toNat - 87)
  else if 'A' ≤ c ∧ c ≤ 'F' then some (c.toNat - 55)
  else none

/-- The value of hexadecimal digits. -/
def hexNatural (values : List Nat) : Nat := values.foldl (fun n value => 16 * n + value) 0

/-- The digit of a value below sixteen, in lower case. -/
def hexChar (n : Nat) : Char := if n < 10 then Char.ofNat (48 + n) else Char.ofNat (87 + n)

theorem hexValue?_hexChar : ∀ n < 16, hexValue? (hexChar n) = some n := by decide

end BuildScheduler.Text
