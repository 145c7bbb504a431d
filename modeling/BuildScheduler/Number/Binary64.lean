/-!
# Finite binary64 numbers

A number is a sign and a mantissa scaled by a power of two, in the one form the format
gives it. Every rounding goes through `ofRatio`: to nearest, a tie to the even mantissa.
-/

namespace BuildScheduler

def twoTo (exponent : Nat) : Nat := Nat.pow 2 exponent

def tenTo (exponent : Nat) : Nat := Nat.pow 10 exponent

/-- The magnitudes of the format: 53 bits of mantissa, and zero and the subnormal ones at
the least exponent. -/
def Binary64.Canonical (mantissa : Nat) (exponent : Int) : Prop :=
  mantissa < 9007199254740992 ∧ -1074 ≤ exponent ∧ exponent ≤ 971 ∧
    (4503599627370496 ≤ mantissa ∨ exponent = -1074)

instance (mantissa : Nat) (exponent : Int) : Decidable (Binary64.Canonical mantissa exponent) := by
  unfold Binary64.Canonical; infer_instance

/-- The number `mantissa * 2 ^ exponent`, negated when `negative`. -/
structure Binary64 where
  negative : Bool
  mantissa : Nat
  exponent : Int
  canonical : Binary64.Canonical mantissa exponent
deriving DecidableEq

namespace Binary64

/-- The quotient as a whole number: to nearest, a tie to the even one. -/
def roundDiv (num den : Nat) : Nat :=
  let quotient := num / den
  let rest := num % den
  if den < 2 * rest ∨ (2 * rest = den ∧ quotient % 2 = 1) then quotient + 1 else quotient

/-- The fraction `num / den` divided by `2 ^ exponent`. -/
def scaleDown (num den : Nat) (exponent : Int) : Nat × Nat :=
  (num * twoTo (-exponent).toNat, den * twoTo exponent.toNat)

/-- The exponent at which `num / den` has a mantissa of 53 bits, or the least one. -/
def exponentOf (num den : Nat) : Int :=
  if num = 0 then -1074 else
  let guess : Int := num.log2 - den.log2 - 52
  let scaled := scaleDown num den guess
  max (-1074) (if scaled.1 < 4503599627370496 * scaled.2 then guess - 1 else guess)

/-- The number nearest to `num / den`; none when it is beyond the finite ones. -/
def ofRatio? (negative : Bool) (num den : Nat) : Option Binary64 :=
  let exponent := exponentOf num den
  let scaled := scaleDown num den exponent
  let mantissa := roundDiv scaled.1 scaled.2
  let carried : Nat × Int := if mantissa = 9007199254740992 then (4503599627370496, exponent + 1) else (mantissa, exponent)
  if h : Canonical carried.1 carried.2 then some ⟨negative, carried.1, carried.2, h⟩ else none

def zero (negative : Bool) : Binary64 := ⟨negative, 0, -1074, by decide⟩

/-- The magnitude as a fraction. -/
def fraction (x : Binary64) : Nat × Nat :=
  (x.mantissa * twoTo x.exponent.toNat, twoTo (-x.exponent).toNat)

def isZero (x : Binary64) : Bool := x.mantissa == 0

def neg (x : Binary64) : Binary64 := { x with negative := !x.negative }

/-- The nearest number to a natural one below the overflow threshold. -/
def ofNat? (n : Nat) : Option Binary64 := ofRatio? false n 1

def mul? (x y : Binary64) : Option Binary64 :=
  ofRatio? (x.negative != y.negative) (x.fraction.1 * y.fraction.1) (x.fraction.2 * y.fraction.2)

def div? (x y : Binary64) : Option Binary64 :=
  if y.isZero then none
  else ofRatio? (x.negative != y.negative) (x.fraction.1 * y.fraction.2) (x.fraction.2 * y.fraction.1)

/-! The decimal with the fewest digits that reads back as the number. -/

/-- The magnitude and the two ends of the interval of reals that round to it, over the one
denominator `2 ^ p` times `2 ^ q`: numerators of the lower end, the value and the upper end. -/
structure Interval where
  low : Nat
  value : Nat
  high : Nat
  den : Nat
  closed : Bool

def interval (x : Binary64) : Interval :=
  let exponent := x.exponent - 2
  let up := twoTo exponent.toNat
  let below := if x.mantissa = 4503599627370496 ∧ -1074 < x.exponent then 1 else 2
  { low := (4 * x.mantissa - below) * up
    value := 4 * x.mantissa * up
    high := (4 * x.mantissa + 2) * up
    den := twoTo (-exponent).toNat
    closed := x.mantissa % 2 == 0 }

/-- Whether `digits * 10 ^ scale` rounds to the number. -/
def Interval.contains (i : Interval) (digits : Nat) (scale : Int) : Bool :=
  let point := digits * tenTo scale.toNat * i.den
  let unit := tenTo (-scale).toNat
  if i.closed then i.low * unit ≤ point && point ≤ i.high * unit
  else i.low * unit < point && point < i.high * unit

/-- The distance of `digits * 10 ^ scale` from the number, over a denominator that depends on
the scale alone. -/
def Interval.distance (i : Interval) (digits : Nat) (scale : Int) : Nat :=
  let point := digits * tenTo scale.toNat * i.den
  let value := i.value * tenTo (-scale).toNat
  (point - value) + (value - point)

/-- The power of ten of the leading decimal digit. -/
def Interval.leading (i : Interval) : Int :=
  ((Nat.toDigits 10 (i.value * tenTo 400 / i.den)).length : Int) - 401

/-- The nearer of the two neighbours on the grid of `10 ^ scale` that rounds to the number. -/
def Interval.onGrid? (i : Interval) (scale : Int) : Option Nat :=
  let below := i.value * tenTo (-scale).toNat / (i.den * tenTo scale.toNat)
  let above := below + 1
  match i.contains below scale, i.contains above scale with
  | true, true =>
      let down := i.distance below scale
      let up := i.distance above scale
      some (if down < up ∨ (down = up ∧ below % 2 = 0) then below else above)
  | true, false => some below
  | false, true => some above
  | false, false => none

/-- The first grid with a hit, from one digit on. -/
def Interval.search (i : Interval) (leading : Int) : List Nat → Nat × Int
  | [] => (0, 0)
  | count :: more =>
      match i.onGrid? (leading + 1 - count) with
      | some digits => (digits, leading + 1 - count)
      | none => i.search leading more

/-- Moves trailing zeros of the digits into the scale. -/
def trimZeros : Nat → Nat × Int → Nat × Int
  | 0, decimal => decimal
  | fuel + 1, (digits, scale) =>
      if digits ≠ 0 ∧ digits % 10 = 0 then trimZeros fuel (digits / 10, scale + 1) else (digits, scale)

/-- The shortest decimal `digits * 10 ^ scale` of the magnitude. -/
def shortest (x : Binary64) : Nat × Int :=
  if x.isZero then (0, 0)
  else
    let i := x.interval
    trimZeros 20 (i.search i.leading ((List.range 17).map (· + 1)))

/-! Text of the shortest decimal. -/

def zeros (n : Nat) : String := String.ofList (List.replicate n '0')

/-- The positional form with a point and at least one digit after it. -/
def positional (digits : String) (scale : Int) : String :=
  let point := (digits.length : Int) + scale
  if 0 ≤ scale then digits ++ zeros scale.toNat ++ ".0"
  else if 0 < point then
    String.ofList (digits.toList.take point.toNat) ++ "." ++ String.ofList (digits.toList.drop point.toNat)
  else "0." ++ zeros (-point).toNat ++ digits

/-- The scientific form, without a point after a single digit. -/
def scientific (digits : String) (scale : Int) : String :=
  let exponent := (digits.length : Int) + scale - 1
  match digits.toList with
  | [] => ""
  | [digit] => String.singleton digit ++ "e" ++ toString exponent
  | digit :: more => String.singleton digit ++ "." ++ String.ofList more ++ "e" ++ toString exponent

def signed (x : Binary64) (text : String) : String := if x.negative then "-" ++ text else text

/-- Positional when the leading digit stands between `10 ^ 15` and `10 ^ -5`, else scientific. -/
def render (x : Binary64) : String :=
  let (digits, scale) := x.shortest
  let text := toString digits
  let point := (text.length : Int) + scale
  x.signed (if -5 < point ∧ point ≤ 16 then positional text scale else scientific text scale)

end Binary64

end BuildScheduler
