import BuildScheduler.Time.Instant
import Mathlib.Data.Nat.Find
import Mathlib.Tactic.IntervalCases

/-!
# Dates and day numbers

A day number is made of a cycle of four hundred years, a year of the cycle, a month and a day of
it, where cycles and years begin in March. So every day number has a date that the calendar has,
and that date has the day number. The days of one year come before those of the next one, and a
bound on the year of a date is a bound on its day number.

An instant falls into the year of its day.
-/

namespace BuildScheduler

namespace Date

/-! ## Years of a cycle -/

def cycleDays (year : Nat) : Nat := 365 * year + year / 4 - year / 100 + year / 400

def cycleYear (day : Nat) : Nat := (day - day / 1460 + day / 36524 - day / 146096) / 365

theorem cycleYear_mono {a b : Nat} (h : a ≤ b) : cycleYear a ≤ cycleYear b := by
  have hfour : a - a / 1460 ≤ b - b / 1460 := by omega
  -- there are four centuries in a cycle, so this is about the number of centuries alone
  have hcentury : a / 36524 - a / 146096 ≤ b / 36524 - b / 146096 := by omega
  unfold cycleYear
  exact Nat.div_le_div_right (by omega)

/-- The first and the last day of each year of a cycle fall into that year. -/
theorem cycleYear_cycleDays {year : Nat} (h : year < 400) :
    cycleYear (cycleDays year) = year ∧ cycleYear (cycleDays (year + 1) - 1) = year := by
  have hall : ∀ year < 400,
      cycleYear (cycleDays year) = year ∧ cycleYear (cycleDays (year + 1) - 1) = year := by
    decide +kernel
  exact hall year h

/-- So do the days between them. -/
theorem cycleYear_eq {year day : Nat} (h : year < 400) (hs : cycleDays year ≤ day)
    (he : day < cycleDays (year + 1)) : cycleYear day = year := by
  obtain ⟨hfirst, hlast⟩ := cycleYear_cycleDays h
  have hlow : year ≤ cycleYear day := hfirst ▸ cycleYear_mono hs
  have hhigh : cycleYear day ≤ year := hlast ▸ cycleYear_mono (by omega)
  exact Nat.le_antisymm hhigh hlow

theorem exists_cycleYear {day : Nat} (h : day < 146097) :
    ∃ year < 400, cycleDays year ≤ day ∧ day < cycleDays (year + 1) := by
  let year := Nat.findGreatest (fun year => cycleDays year ≤ day) 399
  have hle : year ≤ 399 := Nat.findGreatest_le 399
  have hzero : cycleDays 0 ≤ day := Nat.zero_le day
  have hstart : cycleDays year ≤ day :=
    Nat.findGreatest_spec (P := fun year => cycleDays year ≤ day) (Nat.zero_le 399) hzero
  refine ⟨year, by omega, hstart, ?_⟩
  by_cases hlast : year = 399
  · rw [hlast]
    exact h
  · have hafter : ¬ cycleDays (year + 1) ≤ day :=
      Nat.findGreatest_is_greatest (P := fun year => cycleDays year ≤ day)
        (Nat.lt_succ_self year) (by omega)
    exact Nat.lt_of_not_le hafter

/-- The length of a year of a cycle, which ends with the February of the calendar year after. -/
theorem cycleDays_succ {year : Nat} (h : year < 400) (cycle : Int) :
    cycleDays (year + 1) = cycleDays year +
      if isLeap (cycle * 400 + year + 1) then 366 else 365 := by
  have hleap : isLeap (cycle * 400 + year + 1) = true ↔
      (year + 1) % 4 = 0 ∧ ((year + 1) % 100 ≠ 0 ∨ (year + 1) % 400 = 0) := by
    unfold isLeap
    simp only [Bool.and_eq_true, Bool.or_eq_true, beq_iff_eq, bne_iff_ne, ne_eq]
    omega
  unfold cycleDays
  split
  · rename_i hl
    rw [hleap] at hl
    omega
  · rename_i hl
    rw [hleap] at hl
    omega

/-! ## The places of a day number -/

/-- What a day number is made of: a cycle, a year of it, a month of the year and a day of the
month, all counted from zero. -/
structure Places (days cycle : Int) (year month day : Nat) : Prop where
  year_lt : year < 400
  month_lt : month < 12
  day_lt : daysBefore month + day < daysBefore (month + 1)
  lt_year : cycleDays year + (daysBefore month + day) < cycleDays (year + 1)
  days_eq : days = cycle * 146097 + cycleDays year + (daysBefore month + day) - 719468

theorem exists_places (days : Int) : ∃ cycle year month day, Places days cycle year month day := by
  have hday : ((days + 719468) % 146097).toNat < 146097 := by omega
  obtain ⟨year, hyear, hstart, hend⟩ := exists_cycleYear hday
  obtain ⟨ofYear, hofYear⟩ := Nat.le.dest hstart
  have hlength : ofYear < 366 := by
    have hsucc := cycleDays_succ hyear 0
    split at hsucc
    · omega
    · omega
  have hmonth : daysBefore ((5 * ofYear + 2) / 153) ≤ ofYear ∧
      ofYear < daysBefore ((5 * ofYear + 2) / 153 + 1) := by
    unfold daysBefore
    omega
  obtain ⟨ofMonth, hofMonth⟩ := Nat.le.dest hmonth.1
  refine ⟨(days + 719468) / 146097, year, (5 * ofYear + 2) / 153, ofMonth, hyear, ?_, ?_, ?_, ?_⟩
  · omega
  · omega
  · omega
  · omega

variable {days cycle : Int} {year month day : Nat}

/-- The date of a day number, by its places. -/
theorem ofDays_eq (h : Places days cycle year month day) :
    ofDays days =
      { year := if month < 10 then cycle * 400 + year else cycle * 400 + year + 1
        month := if month < 10 then month + 3 else month - 9
        day := day + 1 } := by
  have hyear := h.year_lt
  have hmonth := h.month_lt
  have hday := h.day_lt
  have hlength := h.lt_year
  have hcount := h.days_eq
  have hcycle : (days + 719468) / 146097 = cycle ∧
      ((days + 719468) % 146097).toNat = cycleDays year + (daysBefore month + day) := by
    have hlast : cycleDays (year + 1) ≤ 146097 := by
      unfold cycleDays
      omega
    omega
  have hcycleYear := cycleYear_eq hyear (Nat.le_add_right _ _) hlength
  unfold cycleYear at hcycleYear
  have hcycleDays : 365 * year + year / 4 - year / 100 = cycleDays year := by
    unfold cycleDays
    omega
  have hindex : (5 * (daysBefore month + day) + 2) / 153 = month := by
    unfold daysBefore at hday ⊢
    omega
  unfold ofDays
  simp only [hcycle.1, hcycle.2, hcycleYear, hcycleDays, Nat.add_sub_cancel_left, hindex]
  by_cases hlate : month < 10
  · have hm : ¬ month + 3 ≤ 2 := by omega
    simp only [hlate, hm, if_true, if_false]
  · have hm : month - 9 ≤ 2 := by omega
    simp only [hlate, hm, if_true, if_false]

/-- The date of a day number has that number. -/
theorem toDays_ofDays (days : Int) : (ofDays days).toDays = days := by
  obtain ⟨cycle, year, month, day, h⟩ := exists_places days
  have hyear := h.year_lt
  have hmonth := h.month_lt
  have hdays := h.days_eq
  have hcycle : (cycle * 400 + year) / 400 = cycle := by omega
  have hrest : (cycle * 400 + year) % 400 = year := by omega
  have hcount : (365 * (year : Int) + year / 4 - year / 100) = cycleDays year := by
    unfold cycleDays
    omega
  rw [ofDays_eq h]
  unfold toDays
  by_cases hlate : month < 10
  · have hm : ¬ month + 3 ≤ 2 := by omega
    have hindex : (month + 3 + 9) % 12 = month := by omega
    simp only [hlate, hm, hindex, if_true, if_false, hcycle, hrest, hcount]
    omega
  · have hm : month - 9 ≤ 2 := by omega
    have hindex : (month - 9 + 9) % 12 = month := by omega
    simp only [hlate, hm, hindex, if_true, if_false, Int.add_sub_cancel, hcycle, hrest, hcount]
    omega

/-- The months before February have their length in any year. -/
theorem monthLength_of_lt (h : month < 11) (of : Int) :
    monthLength of (if month < 10 then month + 3 else month - 9) =
      daysBefore (month + 1) - daysBefore month := by
  interval_cases month <;> rfl

/-- The date of a day number is one that the calendar has. -/
theorem valid_ofDays (days : Int) : (ofDays days).Valid := by
  obtain ⟨cycle, year, month, day, h⟩ := exists_places days
  have hmonth := h.month_lt
  have hday := h.day_lt
  have hlength := h.lt_year
  rw [ofDays_eq h]
  refine ⟨by dsimp only; split <;> omega, by dsimp only; split <;> omega, by simp, ?_⟩
  by_cases hlast : month < 11
  · have hmonthLength := monthLength_of_lt hlast
    dsimp only
    rw [hmonthLength]
    omega
  · -- the February of a March year belongs to the calendar year after
    have hfebruary : month = 11 := by omega
    subst hfebruary
    rw [cycleDays_succ h.year_lt cycle] at hlength
    have hbefore : daysBefore 11 = 337 := rfl
    show day + 1 ≤ if isLeap (cycle * 400 + year + 1) then 29 else 28
    split
    · rename_i hl
      rw [if_pos hl] at hlength
      omega
    · rename_i hl
      rw [if_neg hl] at hlength
      omega

/-! ## Bounds on years -/

/-- The days before a March year, counted from the first of March of the year zero. -/
def marchDays (year : Int) : Int := 365 * year + year / 4 - year / 100 + year / 400

/-- The day number of a date in January or February. -/
theorem toDays_of_early {d : Date} (ho : 1 ≤ d.month) (h : d.month ≤ 2) :
    d.toDays = marchDays (d.year - 1) + 306 + 31 * (d.month - 1) + (d.day - 1) - 719468 := by
  have hbefore : daysBefore ((d.month + 9) % 12) = 306 + 31 * (d.month - 1) := by
    unfold daysBefore
    omega
  unfold toDays marchDays
  simp only [if_pos h, hbefore]
  omega

/-- The day number of a date from March on. -/
theorem toDays_of_late {d : Date} (h : ¬ d.month ≤ 2) :
    d.toDays = marchDays d.year + daysBefore ((d.month + 9) % 12) + (d.day - 1) - 719468 := by
  unfold toDays marchDays
  simp only [if_neg h]
  omega

/-- The first day of a year. -/
theorem toDays_newYear (year : Int) :
    toDays ⟨year, 1, 1⟩ = marchDays (year - 1) + 306 - 719468 := by
  rw [toDays_of_early (Nat.le_refl 1) (Nat.le_succ 1)]
  dsimp only
  omega

theorem newYear_le {a b : Int} (h : a ≤ b) : toDays ⟨a, 1, 1⟩ ≤ toDays ⟨b, 1, 1⟩ := by
  rw [toDays_newYear, toDays_newYear]
  unfold marchDays
  omega

theorem day_le {d : Date} (h : d.Valid) : d.day ≤ 31 := by
  obtain ⟨-, -, -, hlast⟩ := h
  unfold monthLength at hlast
  split at hlast
  · split at hlast
    · omega
    · omega
  all_goals omega

/-- A date falls between the first day of its year and that of the next one. -/
theorem toDays_bounds {d : Date} (h : d.Valid) :
    toDays ⟨d.year, 1, 1⟩ ≤ d.toDays ∧ d.toDays < toDays ⟨d.year + 1, 1, 1⟩ := by
  have hday := day_le h
  obtain ⟨hone, htwelve, hfirst, hlast⟩ := h
  have hmarch : marchDays (d.year - 1) + 365 ≤ marchDays d.year := by
    unfold marchDays
    omega
  rw [toDays_newYear, toDays_newYear, Int.add_sub_cancel]
  by_cases hearly : d.month ≤ 2
  · rw [toDays_of_early hone hearly]
    -- a February has no more than twenty-nine days
    have hfebruary : d.month = 2 → d.day ≤ 29 := by
      intro hm
      rw [hm] at hlast
      simp only [monthLength] at hlast
      split at hlast
      · exact hlast
      · omega
    omega
  · rw [toDays_of_late hearly]
    have hbefore : daysBefore ((d.month + 9) % 12) ≤ 275 := by
      unfold daysBefore
      omega
    omega

/-- A date falls before the first day of a year just if its own year is earlier. -/
theorem toDays_lt_newYear_iff {d : Date} (h : d.Valid) (year : Int) :
    d.toDays < toDays ⟨year, 1, 1⟩ ↔ d.year < year := by
  obtain ⟨hstart, hend⟩ := toDays_bounds h
  constructor
  · intro hlt
    by_cases hy : year ≤ d.year
    · have hle := newYear_le hy
      omega
    · omega
  · intro hlt
    have hle := newYear_le (by omega : d.year + 1 ≤ year)
    omega

end Date

namespace Instant

/-! ## The years of instants -/

def year (i : Instant) : Int := (Date.ofDays (i.second / 86400)).year

theorem year_lt_iff (i : Instant) (year : Int) :
    i.year < year ↔ i.second < Date.toDays ⟨year, 1, 1⟩ * 86400 := by
  have hdate := Date.toDays_lt_newYear_iff (Date.valid_ofDays (i.second / 86400)) year
  rw [Date.toDays_ofDays] at hdate
  have hdays : i.second / 86400 < Date.toDays ⟨year, 1, 1⟩ ↔
      i.second < Date.toDays ⟨year, 1, 1⟩ * 86400 := by omega
  exact hdate.symm.trans hdays

end Instant

end BuildScheduler
