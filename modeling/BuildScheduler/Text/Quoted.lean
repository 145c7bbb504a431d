import BuildScheduler.Unicode.Classes

/-!
# Quoted text

A text between double quotes in which the quote, the backslash and every character without a
printed shape are written as escapes.
-/

namespace BuildScheduler.Text

/-- Lower-case hexadecimal digits without leading zeros. -/
def hex (n : Nat) : String := String.ofList (Nat.toDigits 16 n)

/-- One character inside a quoted text. -/
def escape (c : Char) : String :=
  match c with
  | '\x00' => "\\0"
  | '\t' => "\\t"
  | '\r' => "\\r"
  | '\n' => "\\n"
  | '"' => "\\\""
  | '\\' => "\\\\"
  | c =>
      if CodePoints.containsIn Unicode.unprintableCuts c.toNat then
        "\\u\x7b" ++ hex c.toNat ++ "\x7d"
      else String.singleton c

def quote (text : String) : String :=
  "\"" ++ String.join (text.toList.map escape) ++ "\""

end BuildScheduler.Text
