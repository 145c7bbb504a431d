import BuildScheduler.Json.Node
import BuildScheduler.Text.Digits

/-!
# JSON numbers

A number without point and exponent that fits 64 bits, unsigned or negative signed, is an
integer; minus zero and every other number is a double. A double is the significand, cut to
64 bits, scaled by one power of ten at most `10 ^ 308` at a time, each step rounded.
-/

namespace BuildScheduler.Json.Number

/-- The longest run of decimal digits and the rest. -/
def digits : List Char → List Char × List Char
  | [] => ([], [])
  | c :: rest =>
      if Text.isDigit c then ((c :: (digits rest).1), (digits rest).2) else ([], c :: rest)

/-- The parts of a number as written. -/
structure Parts where
  negative : Bool
  whole : List Char
  /-- Digits after the point; none without a point. -/
  decimals : Option (List Char)
  exponent : Option (Bool × List Char)

/-- What is wrong where a digit is missing. -/
def missingDigit : List Char → Fault
  | [] => .truncated
  | _ :: _ => .malformed

/-- The digits of an exponent after its letter, with the sign. -/
def exponentPart (cs : List Char) : Except Fault ((Bool × List Char) × List Char) :=
  let (negative, cs) :=
    match cs with
    | '+' :: rest => (false, rest)
    | '-' :: rest => (true, rest)
    | cs => (false, cs)
  let (ds, rest) := digits cs
  if ds.isEmpty then .error (missingDigit rest) else .ok ((negative, ds), rest)

/-- The parts of a number that starts here, and the rest. -/
def parts (cs : List Char) : Except Fault (Parts × List Char) := do
  let (negative, cs) :=
    match cs with
    | '-' :: rest => (true, rest)
    | cs => (false, cs)
  let (whole, rest) := digits cs
  if whole.isEmpty then throw (missingDigit rest)
  if whole.head? = some '0' ∧ 1 < whole.length then throw .malformed
  let (decimals, rest) ←
    match rest with
    | '.' :: rest => do
        let (ds, rest) := digits rest
        if ds.isEmpty then throw (missingDigit rest) else pure (some ds, rest)
    | rest => pure (none, rest)
  match rest with
  | 'e' :: rest | 'E' :: rest => do
      let (exponent, rest) ← exponentPart rest
      pure (⟨negative, whole, decimals, some exponent⟩, rest)
  | rest => pure (⟨negative, whole, decimals, none⟩, rest)

/-- Accumulates digits while the significand fits 64 bits; returns it with the number of digits
taken. -/
def accumulate : Nat → Nat → List Char → Nat × Nat
  | significand, taken, [] => (significand, taken)
  | significand, taken, c :: rest =>
      let next := 10 * significand + Text.digitValue c
      if next ≤ 18446744073709551615 then accumulate next (taken + 1) rest else (significand, taken)

/-- The double nearest to a power of ten. -/
def powerOfTen (exponent : Nat) : Option Binary64 := Binary64.ofNat? (tenTo exponent)

/-- Scales down by `10 ^ 308` until the exponent is in reach or nothing is left; fuel bounds the
steps, of which three bring every significand to zero. -/
def scale : Nat → Binary64 → Int → Option Binary64
  | 0, value, _ => some value
  | fuel + 1, value, exponent =>
      if exponent.natAbs ≤ 308 then do
        let power ← powerOfTen exponent.natAbs
        if 0 ≤ exponent then value.mul? power else value.div? power
      else if value.isZero then some value
      else if 0 ≤ exponent then none
      else do
        let power ← powerOfTen 308
        let smaller ← value.div? power
        scale fuel smaller (exponent + 308)

/-- The signed double of a significand and a power of ten. -/
def double? (negative : Bool) (significand : Nat) (exponent : Int) : Option Binary64 := do
  let magnitude ← Binary64.ofNat? significand
  let value ← scale 5 magnitude exponent
  pure (if negative then value.neg else value)

def clampExponent (n : Int) : Int := max (-2147483648) (min 2147483647 n)

/-- The significand of the whole digits and the digits after the point, with the power of ten
that the digits left out and those after the point leave to it. -/
def significand (whole : List Char) (decimals : Option (List Char)) : Nat × Int :=
  let (value, taken) := accumulate 0 0 whole
  let dropped : Int := whole.length - taken
  match decimals with
  | none => (value, dropped)
  | some ds =>
      let (value, used) := accumulate value 0 ds
      (value, dropped - used)

/-- The node of a number's parts; spoiled when the number is beyond the doubles. -/
def node (p : Parts) : Node :=
  let (value, shift) := significand p.whole p.decimals
  let ofDouble (x : Option Binary64) : Node :=
    match x with
    | some x => .double x
    | none => .spoiled
  match p.decimals, p.exponent with
  | none, none =>
      if shift = 0 then
        if !p.negative then .int value
        else if value = 0 ∨ 9223372036854775808 < value then ofDouble (double? true value 0)
        else .int (-value)
      else ofDouble (double? p.negative value shift)
  | _, none => ofDouble (double? p.negative value shift)
  | _, some (negativeExponent, ds) =>
      let exponent := Text.natural ds
      if 2147483648 ≤ exponent then
        if value ≠ 0 ∧ !negativeExponent then .spoiled
        else .double (Binary64.zero p.negative)
      else
        let total := if negativeExponent then shift - exponent else shift + exponent
        ofDouble (double? p.negative value (clampExponent total))

end BuildScheduler.Json.Number
