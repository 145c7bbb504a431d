import BuildScheduler.Kdl.Basic
import BuildScheduler.Text.Digits

/-!
# KDL numbers

Integers are written in one of four radices with underscores between digits, and are read up to
`2 ^ 127 - 1` on either side of zero. A point or an exponent makes a number a real one.
-/

namespace BuildScheduler.Kdl.Number

/-- The value of a digit in a radix. -/
def digit? (radix : Nat) (c : Char) : Option Nat :=
  (Text.hexValue? c).bind fun value => if value < radix then some value else none

/-- Digits and underscores that begin with a digit: the digits' values and the rest. -/
def digits? (radix : Nat) (cs : List Char) : Option (List Nat × List Char) :=
  let run := cs.takeWhile fun c => c == '_' || (digit? radix c).isSome
  match run with
  | c :: _ => if c = '_' then none else some (run.filterMap (digit? radix), cs.drop run.length)
  | [] => none

def valueOf (radix : Nat) (ds : List Nat) : Nat := ds.foldl (fun n d => radix * n + d) 0

/-- The largest integer that is read. -/
def largest : Nat := 170141183460469231731687303715884105727

/-- The integer of a sign and digits, unless it is out of bounds. -/
def integer? (negative : Bool) (radix : Nat) (ds : List Nat) : Option Value :=
  let value := valueOf radix ds
  if value ≤ largest then some (.int (if negative then -(value : Int) else value)) else none

/-- The sign of a number and the rest. -/
def sign : List Char → Bool × List Char
  | '-' :: rest => (true, rest)
  | '+' :: rest => (false, rest)
  | cs => (false, cs)

/-- An exponent after its letter. -/
def exponent? (cs : List Char) : Option (List Char) := (digits? 10 (sign cs).2).map (·.2)

/-- What follows the whole digits of a decimal: nothing, or a real number's rest. -/
def fraction? (cs : List Char) : Option (Bool × List Char) := do
  let (real, cs) ←
    match cs with
    | '.' :: rest => (digits? 10 rest).map fun (_, rest) => (true, rest)
    | cs => some (false, cs)
  match cs with
  | 'e' :: rest | 'E' :: rest => (exponent? rest).map fun rest => (true, rest)
  | cs => some (real, cs)

def decimal? (negative : Bool) (cs : List Char) : Option (Value × List Char) := do
  let (ds, rest) ← digits? 10 cs
  let (real, rest) ← fraction? rest
  if real then some (.real, rest)
  else (integer? negative 10 ds).map fun value => (value, rest)

/-- An integer after the letter of its radix. -/
def radix? (negative : Bool) (radix : Nat) (cs : List Char) : Option (Value × List Char) := do
  let (ds, rest) ← digits? radix cs
  (integer? negative radix ds).map fun value => (value, rest)

/-- A number that starts here. -/
def number? (cs : List Char) : Option (Value × List Char) :=
  let (negative, cs) := sign cs
  match cs with
  | '0' :: 'x' :: rest => radix? negative 16 rest
  | '0' :: 'o' :: rest => radix? negative 8 rest
  | '0' :: 'b' :: rest => radix? negative 2 rest
  | cs => decimal? negative cs

/-- Whether a number starts here: a digit, after a sign or not. -/
def starts (cs : List Char) : Bool :=
  match (sign cs).2 with
  | c :: _ => Text.isDigit c
  | [] => false

end BuildScheduler.Kdl.Number
