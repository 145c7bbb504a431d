/-!
# The Gregorian calendar

Days are counted from the first of January 1970. A year begins in March for the count, so that
the leap day is the last one of a year.
-/

namespace BuildScheduler

structure Date where
  year : Int
  month : Nat
  day : Nat
deriving DecidableEq, Repr

namespace Date

def isLeap (year : Int) : Bool := year % 4 == 0 && (year % 100 != 0 || year % 400 == 0)

def monthLength (year : Int) (month : Nat) : Nat :=
  match month with
  | 2 => if isLeap year then 29 else 28
  | 4 | 6 | 9 | 11 => 30
  | _ => 31

/-- A date that the calendar has. -/
def Valid (d : Date) : Prop :=
  1 ≤ d.month ∧ d.month ≤ 12 ∧ 1 ≤ d.day ∧ d.day ≤ monthLength d.year d.month

instance (d : Date) : Decidable d.Valid := by unfold Valid; infer_instance

/-- Days from the start of a March year to the start of its `index`-th month. -/
def daysBefore (index : Nat) : Nat := (153 * index + 2) / 5

/-- The day number of a date. -/
def toDays (d : Date) : Int :=
  let index := (d.month + 9) % 12
  let year := if d.month ≤ 2 then d.year - 1 else d.year
  let cycle := year / 400
  let yearOfCycle := year % 400
  cycle * 146097 + (365 * yearOfCycle + yearOfCycle / 4 - yearOfCycle / 100)
    + daysBefore index + ((d.day : Int) - 1) - 719468

/-- The date of a day number. -/
def ofDays (days : Int) : Date :=
  let shifted := days + 719468
  let cycle := shifted / 146097
  let dayOfCycle := (shifted % 146097).toNat
  let yearOfCycle :=
    (dayOfCycle - dayOfCycle / 1460 + dayOfCycle / 36524 - dayOfCycle / 146096) / 365
  let dayOfYear := dayOfCycle - (365 * yearOfCycle + yearOfCycle / 4 - yearOfCycle / 100)
  let index := (5 * dayOfYear + 2) / 153
  let month := if index < 10 then index + 3 else index - 9
  let year := cycle * 400 + yearOfCycle
  { year := if month ≤ 2 then year + 1 else year
    month := month
    day := dayOfYear - daysBefore index + 1 }

end Date

end BuildScheduler
