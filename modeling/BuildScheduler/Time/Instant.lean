import BuildScheduler.Time.Calendar
import BuildScheduler.Time.Span
import BuildScheduler.Json.Decode
import BuildScheduler.Json.Printer

/-!
# Instants

An instant is a second of universal time with its nanoseconds. A leap second has no number of
its own: it is the second before it with a thousand million nanoseconds or more. Texts follow
the date and time format of RFC 3339; a reading takes any offset and some blanks more, and a
writing has the offset Z and the fewest fraction digits, by threes.
-/

namespace BuildScheduler

structure Instant where
  second : Int
  nano : Nat
  nano_lt : nano < 2000000000
deriving DecidableEq

namespace Instant

/-- Orders instants by their seconds, then by their nanoseconds. -/
def key (i : Instant) : Int := i.second * 2000000000 + i.nano

instance : LT Instant := ⟨fun a b => a.key < b.key⟩
instance : LE Instant := ⟨fun a b => a.key ≤ b.key⟩
instance (a b : Instant) : Decidable (a < b) := inferInstanceAs (Decidable (a.key < b.key))
instance (a b : Instant) : Decidable (a ≤ b) := inferInstanceAs (Decidable (a.key ≤ b.key))

theorem lt_iff (a b : Instant) : a < b ↔ a.key < b.key := Iff.rfl

theorem le_iff (a b : Instant) : a ≤ b ↔ a.key ≤ b.key := Iff.rfl

theorem not_lt {a b : Instant} : ¬ a < b ↔ b ≤ a := Int.not_lt

theorem lt_of_lt_of_le {a b c : Instant} (h : a < b) (k : b ≤ c) : a < c := Int.lt_of_lt_of_le h k

theorem le_trans {a b c : Instant} (h : a ≤ b) (k : b ≤ c) : a ≤ c := Int.le_trans h k

/-- The instant that many nanoseconds after the epoch. -/
def ofNanos (nanos : Int) : Instant :=
  ⟨nanos / 1000000000, (nanos % 1000000000).toNat, by omega⟩

instance : Inhabited Instant := ⟨ofNanos 0⟩

/-- The instant that many nanoseconds later; what leaves a leap second first goes back to the
second before it. -/
def add (i : Instant) (nanos : Nat) : Instant :=
  if h : nanosPerSecond ≤ i.nano ∧ i.nano + nanos < 2000000000 then ⟨i.second, i.nano + nanos, h.2⟩
  else ofNanos (i.second * nanosPerSecond + (i.nano % nanosPerSecond + nanos : Nat))

theorem add_le_add (i : Instant) {a b : Nat} (h : a ≤ b) : i.add a ≤ i.add b := by
  have hn := i.nano_lt
  unfold add nanosPerSecond
  rw [le_iff]
  by_cases hb : 1000000000 ≤ i.nano ∧ i.nano + b < 2000000000
  · have ha : 1000000000 ≤ i.nano ∧ i.nano + a < 2000000000 := by omega
    rw [dif_pos ha, dif_pos hb]
    simp only [key]
    omega
  · rw [dif_neg hb]
    by_cases ha : 1000000000 ≤ i.nano ∧ i.nano + a < 2000000000
    · rw [dif_pos ha]
      simp only [key, ofNanos]
      omega
    · rw [dif_neg ha]
      simp only [key, ofNanos]
      omega

/-! Writing -/

/-- Decimal digits, with zeros before them up to a width. -/
def padded (width n : Nat) : List Char :=
  let ds := Nat.toDigits 10 n
  List.replicate (width - ds.length) '0' ++ ds

def yearText (year : Int) : List Char :=
  if 0 ≤ year ∧ year ≤ 9999 then padded 4 year.toNat
  else (if year < 0 then '-' else '+') :: padded 4 year.natAbs

/-- The fraction in the fewest digits, by threes, that are exact. -/
def fractionText (nano : Nat) : List Char :=
  if nano = 0 then []
  else if nano % 1000000 = 0 then '.' :: padded 3 (nano / 1000000)
  else if nano % 1000 = 0 then '.' :: padded 6 (nano / 1000)
  else '.' :: padded 9 nano

def chars (i : Instant) : List Char :=
  let date := Date.ofDays (i.second / 86400)
  let time := (i.second % 86400).toNat
  let leap := i.nano / nanosPerSecond
  yearText date.year ++ '-' :: padded 2 date.month ++ '-' :: padded 2 date.day ++
    'T' :: padded 2 (time / 3600) ++ ':' :: padded 2 (time / 60 % 60) ++
    ':' :: padded 2 (time % 60 + leap) ++ fractionText (i.nano % nanosPerSecond) ++ ['Z']

def toText (i : Instant) : String := String.ofList i.chars

/-! Reading -/

/-- The rest after any blanks. -/
def skipBlanks (cs : List Char) : List Char := cs.dropWhile Unicode.isWhiteSpace

/-- A number of at least one and at most `most` digits after any blanks. -/
def number? (most : Nat) (cs : List Char) : Option (Nat × List Char) :=
  let cs := skipBlanks cs
  let ds := (cs.take most).takeWhile Text.isDigit
  if ds.isEmpty then none else some (Text.natural ds, cs.drop ds.length)

/-- A year: up to four digits, or any number of them after a sign. -/
def year? (cs : List Char) : Option (Int × List Char) :=
  match skipBlanks cs with
  | '-' :: rest => do
      let ds := rest.takeWhile Text.isDigit
      if ds.isEmpty then none else some (-(Text.natural ds : Int), rest.drop ds.length)
  | '+' :: rest => do
      let ds := rest.takeWhile Text.isDigit
      if ds.isEmpty then none else some ((Text.natural ds : Int), rest.drop ds.length)
  | cs => (number? 4 cs).map fun (n, rest) => ((n : Int), rest)

/-- A character after any blanks. -/
def mark? (wanted : Char) (cs : List Char) : Option (List Char) :=
  match skipBlanks cs with
  | c :: rest => if c = wanted then some rest else none
  | [] => none

/-- Nanoseconds of up to nine digits; further digits do not count. -/
def fraction? (cs : List Char) : Option (Nat × List Char) :=
  match cs with
  | '.' :: rest =>
      let ds := rest.takeWhile Text.isDigit
      if ds.isEmpty then none
      else
        let used := ds.take 9
        some (Text.natural used * tenTo (9 - used.length), rest.drop ds.length)
  | cs => some (0, cs)

/-- The value of two digits. -/
def twoDigits? : List Char → Option (Nat × List Char)
  | a :: b :: rest =>
      if Text.isDigit a && Text.isDigit b then some (Text.natural [a, b], rest) else none
  | _ => none

/-- Seconds east of universal time. -/
def offset? (cs : List Char) : Option (Int × List Char) :=
  let hoursAndMinutes (rest : List Char) : Option (Nat × List Char) := do
    let (hours, rest) ← twoDigits? rest
    let (minutes, rest) ← twoDigits? (rest.dropWhile fun c => c == ':' || Unicode.isWhiteSpace c)
    if 59 < minutes then none else some (hours * 3600 + minutes * 60, rest)
  match cs with
  | 'z' :: rest | 'Z' :: rest => some (0, rest)
  | '+' :: rest => (hoursAndMinutes rest).map fun (n, rest) => ((n : Int), rest)
  | '-' :: rest | '\u2212' :: rest =>
      (hoursAndMinutes rest).map fun (n, rest) => (-(n : Int), rest)
  | c :: d :: e :: rest =>
      if c.toUpper = 'U' ∧ d.toUpper = 'T' ∧ e.toUpper = 'C' then some (0, rest) else none
  | _ => none

/-- The years of the calendar. -/
def minYear : Int := -262143
def maxYear : Int := 262142

/-- Whether a day number falls into the years of the calendar. -/
def dayInRange (days : Int) : Bool :=
  Date.toDays ⟨minYear, 1, 1⟩ ≤ days && days ≤ Date.toDays ⟨maxYear, 12, 31⟩

def InCalendar (i : Instant) : Prop := dayInRange (i.second / 86400) = true

instance (i : Instant) : Decidable i.InCalendar := by unfold InCalendar; infer_instance

/-- The instant of a date, a time of day and an offset, all in range. -/
def ofParts? (date : Date) (hour minute second nano : Nat) (offset : Int) : Option Instant :=
  if date.Valid ∧ minYear ≤ date.year ∧ date.year ≤ maxYear ∧ hour ≤ 23 ∧ minute ≤ 59 ∧
      second ≤ 60 ∧ -86400 < offset ∧ offset < 86400 then
    let leap := second / 60
    let total := date.toDays * 86400 + hour * 3600 + minute * 60 + (second - leap : Nat) - offset
    if h : dayInRange (total / 86400) ∧ nano + leap * nanosPerSecond < 2000000000 then
      some ⟨total, nano + leap * nanosPerSecond, h.2⟩
    else none
  else none

def ofChars? (cs : List Char) : Option Instant := do
  let (year, cs) ← year? cs
  let cs ← mark? '-' cs
  let (month, cs) ← number? 2 cs
  let cs ← mark? '-' cs
  let (day, cs) ← number? 2 cs
  let cs ←
    match cs with
    | 'T' :: rest | 't' :: rest | ' ' :: rest => some rest
    | _ => none
  let (hour, cs) ← number? 2 cs
  let cs ← mark? ':' cs
  let (minute, cs) ← number? 2 cs
  let cs ← mark? ':' cs
  let (second, cs) ← number? 2 cs
  let (nano, cs) ← fraction? cs
  let (offset, cs) ← offset? (skipBlanks cs)
  if (skipBlanks cs).isEmpty then ofParts? ⟨year, month, day⟩ hour minute second nano offset
  else none

def ofText? (text : String) : Option Instant := ofChars? text.toList

/-! JSON -/

def decode : Json.Decoder Instant
  | .str text =>
      match ofText? text with
      | some i => .ok i
      | none => .error (.invalidValue (.str text) "an RFC 3339 formatted date and time string")
  | node => .error (node.mismatch "an RFC 3339 formatted date and time string")

def toJson (i : Instant) : Json := .str i.toText

end Instant

end BuildScheduler
