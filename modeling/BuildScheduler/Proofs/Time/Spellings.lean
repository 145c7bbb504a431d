import BuildScheduler.Proofs.Text.Digits
import BuildScheduler.Proofs.Time.Calendar
import Mathlib.Data.List.Basic
import Mathlib.Data.List.Induction
import Mathlib.Data.List.TakeWhile

/-!
# Spellings of instants

An instant can be spelled as the date and time of any offset, with as many digits of its fraction
as are exact or more. Every spelling of an instant is read as that instant, and the text that an
instant is written as is one of its spellings.
-/

namespace BuildScheduler

namespace Text

theorem isDigit_iff {c : Char} : isDigit c = true ↔ 48 ≤ c.toNat ∧ c.toNat ≤ 57 := by
  unfold isDigit
  rw [Bool.and_eq_true, decide_eq_true_iff, decide_eq_true_iff]
  rfl

theorem isWhiteSpace_of_isDigit {c : Char} (h : isDigit c = true) :
    Unicode.isWhiteSpace c = false := by
  have hall : ∀ n < 58, 48 ≤ n → Unicode.whiteSpace.contains n = false := by decide +kernel
  obtain ⟨hlow, hhigh⟩ := isDigit_iff.1 h
  exact hall c.toNat (by omega) hlow

theorem natural_lt {ds : List Char} (h : ∀ c ∈ ds, isDigit c = true) :
    natural ds < 10 ^ ds.length := by
  induction ds using List.reverseRecOn with
  | nil => exact Nat.one_pos
  | append_singleton ds c ih =>
      rw [List.forall_mem_append, List.forall_mem_singleton] at h
      obtain ⟨hlow, hhigh⟩ := isDigit_iff.1 h.2
      have hlast : digitValue c ≤ 9 := by
        unfold digitValue
        omega
      have hrest := ih h.1
      rw [natural_append, List.length_append, List.length_singleton, Nat.pow_succ]
      simp only [List.foldl_cons, List.foldl_nil]
      omega

theorem natural_zeros (count : Nat) : natural (List.replicate count '0') = 0 := by
  induction count with
  | zero => rfl
  | succ count ih =>
      rw [List.replicate_succ', natural_append, ih]
      rfl

theorem takeWhile_isDigit {ds rest : List Char} (h : ∀ c ∈ ds, isDigit c = true)
    (hr : ∀ c ∈ rest.head?, isDigit c = false) : (ds ++ rest).takeWhile isDigit = ds := by
  rw [List.takeWhile_append_of_pos h]
  cases rest with
  | nil => exact List.append_nil ds
  | cons c rest => rw [List.takeWhile_cons_of_neg (by simp [hr c rfl]), List.append_nil]

end Text

namespace Instant

/-! ## Digits up to a width -/

theorem isDigit_of_mem_padded {width n : Nat} {c : Char} (h : c ∈ padded width n) :
    Text.isDigit c = true := by
  unfold padded at h
  rcases List.mem_append.1 h with hz | hd
  · rw [List.eq_of_mem_replicate hz]
    rfl
  · exact Text.isDigit_of_mem_toDigits hd

theorem natural_padded (width n : Nat) : Text.natural (padded width n) = n := by
  unfold padded
  rw [Text.natural_append, Text.natural_zeros]
  exact Text.natural_toDigits n

theorem padded_ne_nil (width n : Nat) : padded width n ≠ [] := by
  have hpos : 0 < (Nat.toDigits 10 n).length := Nat.length_toDigits_pos
  intro hn
  have hlength := congrArg List.length hn
  simp only [padded, List.length_append, List.length_replicate, List.length_nil] at hlength
  omega

theorem length_padded {width n : Nat} (hw : 0 < width) (h : n < 10 ^ width) :
    (padded width n).length = width := by
  have hlength := Text.length_toDigits_le hw h
  simp only [padded, List.length_append, List.length_replicate]
  omega

theorem exists_cons_padded (width n : Nat) :
    ∃ c ds, padded width n = c :: ds ∧ Text.isDigit c = true := by
  cases hp : padded width n with
  | nil => exact absurd hp (padded_ne_nil width n)
  | cons c ds =>
      have hm : c ∈ padded width n := by
        rw [hp]
        exact List.mem_cons_self
      exact ⟨c, ds, rfl, isDigit_of_mem_padded hm⟩

/-! ## Reading the parts -/

theorem skipBlanks_cons {c : Char} (h : Unicode.isWhiteSpace c = false) (rest : List Char) :
    skipBlanks (c :: rest) = c :: rest := by
  unfold skipBlanks
  rw [List.dropWhile_cons_of_neg (by simp [h])]

/-- A number in exactly the digits that are taken of it. -/
theorem number?_padded {width n : Nat} (hw : 0 < width) (h : n < 10 ^ width) (rest : List Char) :
    number? width (padded width n ++ rest) = some (n, rest) := by
  obtain ⟨c, ds, hp, hc⟩ := exists_cons_padded width n
  have hlength := length_padded hw h
  have hstart : skipBlanks (padded width n ++ rest) = padded width n ++ rest := by
    rw [hp]
    exact skipBlanks_cons (Text.isWhiteSpace_of_isDigit hc) _
  have htaken : ((padded width n ++ rest).take width).takeWhile Text.isDigit = padded width n := by
    rw [List.take_left' hlength]
    exact List.takeWhile_eq_self_iff.2 fun _ hm => isDigit_of_mem_padded hm
  have hempty : (padded width n).isEmpty = false := by
    rw [hp]
    rfl
  unfold number?
  simp only [hstart, htaken, hempty, natural_padded, Bool.false_eq_true, if_false,
    List.drop_left' rfl]

theorem mark?_cons {c : Char} (h : Unicode.isWhiteSpace c = false) (rest : List Char) :
    mark? c (c :: rest) = some rest := by
  unfold mark?
  rw [skipBlanks_cons h]
  exact if_pos rfl

/-- A year without a sign has four digits. -/
theorem year?_of_isDigit {c : Char} (h : Text.isDigit c = true) (rest : List Char) :
    year? (c :: rest) = (number? 4 (c :: rest)).map fun found => ((found.1 : Int), found.2) := by
  have hblank := skipBlanks_cons (Text.isWhiteSpace_of_isDigit h) rest
  unfold year?
  rw [hblank]
  split
  · rename_i heq
    rw [(List.cons.inj heq).1] at h
    exact absurd h (by decide)
  · rename_i heq
    rw [(List.cons.inj heq).1] at h
    exact absurd h (by decide)
  · rfl

theorem year?_signed (magnitude : Nat) (rest : List Char) :
    year? ('-' :: (padded 4 magnitude ++ '-' :: rest)) = some (-(magnitude : Int), '-' :: rest) ∧
      year? ('+' :: (padded 4 magnitude ++ '-' :: rest)) =
        some ((magnitude : Int), '-' :: rest) := by
  have htaken : (padded 4 magnitude ++ '-' :: rest).takeWhile Text.isDigit =
      padded 4 magnitude := by
    refine Text.takeWhile_isDigit (fun _ hm => isDigit_of_mem_padded hm) ?_
    intro c hc
    cases hc
    rfl
  have hempty : (padded 4 magnitude).isEmpty = false := by
    simpa using padded_ne_nil 4 magnitude
  constructor
  · unfold year?
    rw [skipBlanks_cons (by decide +kernel)]
    simp only [htaken, hempty, natural_padded, Bool.false_eq_true, if_false, List.drop_left' rfl]
  · unfold year?
    rw [skipBlanks_cons (by decide +kernel)]
    simp only [htaken, hempty, natural_padded, Bool.false_eq_true, if_false, List.drop_left' rfl]

theorem year?_yearText (year : Int) (rest : List Char) :
    year? (yearText year ++ '-' :: rest) = some (year, '-' :: rest) := by
  unfold yearText
  by_cases hy : 0 ≤ year ∧ year ≤ 9999
  · have hnumber := number?_padded (n := year.toNat) (by decide : 0 < 4) (by omega) ('-' :: rest)
    have hyear : (year.toNat : Int) = year := Int.toNat_of_nonneg hy.1
    obtain ⟨c, ds, hp, hc⟩ := exists_cons_padded 4 year.toNat
    rw [if_pos hy, hp, List.cons_append, year?_of_isDigit hc, ← List.cons_append, ← hp, hnumber,
      Option.map_some, hyear]
  · obtain ⟨hminus, hplus⟩ := year?_signed year.natAbs rest
    rw [if_neg hy]
    by_cases hn : year < 0
    · have hyear : -(year.natAbs : Int) = year := by omega
      rw [if_pos hn, List.cons_append, hminus, hyear]
    · have hyear : (year.natAbs : Int) = year := by omega
      rw [if_neg hn, List.cons_append, hplus, hyear]

/-! ## Spellings -/

/-- An offset from universal time, which is also written as a letter. -/
inductive Offset where
  | universal
  | east (hours minutes : Nat)
  | west (hours minutes : Nat)
deriving DecidableEq

namespace Offset

/-- Seconds east of universal time. -/
def seconds : Offset → Int
  | universal => 0
  | east hours minutes => (hours * 3600 + minutes * 60 : Nat)
  | west hours minutes => -(hours * 3600 + minutes * 60 : Nat)

def chars : Offset → List Char
  | universal => ['Z']
  | east hours minutes => '+' :: padded 2 hours ++ ':' :: padded 2 minutes
  | west hours minutes => '-' :: padded 2 hours ++ ':' :: padded 2 minutes

def Valid : Offset → Prop
  | universal => True
  | east hours minutes => hours ≤ 23 ∧ minutes ≤ 59
  | west hours minutes => hours ≤ 23 ∧ minutes ≤ 59

instance (offset : Offset) : Decidable offset.Valid := by
  cases offset <;> unfold Valid <;> infer_instance

theorem Valid.bounds {offset : Offset} (h : offset.Valid) :
    -86400 < offset.seconds ∧ offset.seconds < 86400 := by
  cases offset with
  | universal => exact ⟨by decide, by decide⟩
  | east hours minutes =>
      unfold Valid at h
      simp only [seconds]
      omega
  | west hours minutes =>
      unfold Valid at h
      simp only [seconds]
      omega

end Offset

/-- A date and time of day at an offset, with digits of the fraction of its second. -/
structure Spelling where
  date : Date
  hour : Nat
  minute : Nat
  second : Nat
  fraction : List Char := []
  offset : Offset := .universal
deriving DecidableEq

namespace Spelling

def chars (s : Spelling) : List Char :=
  yearText s.date.year ++ '-' :: padded 2 s.date.month ++ '-' :: padded 2 s.date.day ++
    'T' :: padded 2 s.hour ++ ':' :: padded 2 s.minute ++ ':' :: padded 2 s.second ++
    (if s.fraction = [] then [] else '.' :: s.fraction) ++ s.offset.chars

def text (s : Spelling) : String := String.ofList s.chars

/-- Every part lies in its range; a minute may have a leap second. -/
structure Valid (s : Spelling) : Prop where
  date : s.date.Valid
  year : minYear ≤ s.date.year ∧ s.date.year ≤ maxYear
  hour : s.hour ≤ 23
  minute : s.minute ≤ 59
  second : s.second ≤ 60
  digits : ∀ c ∈ s.fraction, Text.isDigit c = true
  precision : s.fraction.length ≤ 9
  offset : s.offset.Valid

/-- The seconds of universal time, where a leap second counts as the second before it. -/
def seconds (s : Spelling) : Int :=
  s.date.toDays * 86400 + s.hour * 3600 + s.minute * 60 + min s.second 59 - s.offset.seconds

def nanos (s : Spelling) : Nat := Text.natural s.fraction * tenTo (9 - s.fraction.length)

/-- The instant that is spelled: a leap second has a thousand million nanoseconds more. -/
structure Denotes (s : Spelling) (i : Instant) : Prop where
  second : i.second = s.seconds
  nano : i.nano = s.nanos + if s.second = 60 then nanosPerSecond else 0

end Spelling

/-! ## Reading spellings -/

/-- A fraction is read from its digits, and is zero without them. -/
theorem fraction?_digits {ds : List Char} (hd : ∀ c ∈ ds, Text.isDigit c = true)
    (hp : ds.length ≤ 9) {rest : List Char}
    (hr : ∀ c ∈ rest.head?, Text.isDigit c = false ∧ c ≠ '.') :
    fraction? ((if ds = [] then [] else '.' :: ds) ++ rest) =
      some (Text.natural ds * tenTo (9 - ds.length), rest) := by
  by_cases hds : ds = []
  · subst hds
    unfold fraction?
    rw [if_pos rfl, List.nil_append]
    split
    · exact absurd rfl (hr '.' rfl).2
    · rfl
  · have htaken : (ds ++ rest).takeWhile Text.isDigit = ds :=
      Text.takeWhile_isDigit hd fun c hc => (hr c hc).1
    have hempty : ds.isEmpty = false := by simpa using hds
    rw [if_neg hds, List.cons_append]
    unfold fraction?
    simp only [htaken, hempty, Bool.false_eq_true, if_false, List.take_of_length_le hp,
      List.drop_left' rfl]

theorem twoDigits?_padded {n : Nat} (h : n < 100) (rest : List Char) :
    twoDigits? (padded 2 n ++ rest) = some (n, rest) := by
  have hlength := length_padded (by decide : 0 < 2) h
  have hvalue := natural_padded 2 n
  have hdigits : ∀ c ∈ padded 2 n, Text.isDigit c = true := fun _ hm => isDigit_of_mem_padded hm
  obtain ⟨a, b, hp⟩ := List.length_eq_two.1 hlength
  rw [hp] at hvalue hdigits ⊢
  have ha : Text.isDigit a = true := hdigits a (by simp)
  have hb : Text.isDigit b = true := hdigits b (by simp)
  show (if Text.isDigit a && Text.isDigit b then some (Text.natural [a, b], rest) else none) = _
  rw [ha, hb, hvalue]
  rfl

/-- The colon of an offset is passed over, and then come the minutes. -/
theorem dropWhile_colon (minutes : Nat) :
    (':' :: padded 2 minutes).dropWhile (fun c => c == ':' || Unicode.isWhiteSpace c) =
      padded 2 minutes := by
  obtain ⟨c, ds, hp, hc⟩ := exists_cons_padded 2 minutes
  have hcolon : (c == ':') = false := by
    rw [beq_eq_false_iff_ne]
    rintro rfl
    exact absurd hc (by decide)
  rw [List.dropWhile_cons_of_pos (by decide), hp,
    List.dropWhile_cons_of_neg (by simp [hcolon, Text.isWhiteSpace_of_isDigit hc])]

/-- What an offset other than a letter has after its sign. -/
def hoursAndMinutes? (cs : List Char) : Option (Nat × List Char) := do
  let (hours, rest) ← twoDigits? cs
  let (minutes, rest) ← twoDigits? (rest.dropWhile fun c => c == ':' || Unicode.isWhiteSpace c)
  if 59 < minutes then none else some (hours * 3600 + minutes * 60, rest)

theorem hoursAndMinutes?_padded {hours minutes : Nat} (h : hours ≤ 23 ∧ minutes ≤ 59) :
    hoursAndMinutes? (padded 2 hours ++ ':' :: padded 2 minutes) =
      some (hours * 3600 + minutes * 60, []) := by
  have hm := twoDigits?_padded (by omega : minutes < 100) []
  rw [List.append_nil] at hm
  unfold hoursAndMinutes?
  rw [twoDigits?_padded (by omega : hours < 100)]
  simp only [Option.bind_eq_bind, Option.bind_some, dropWhile_colon, hm]
  exact if_neg (by omega)

theorem offset?_chars {offset : Offset} (h : offset.Valid) :
    offset? offset.chars = some (offset.seconds, []) := by
  cases offset with
  | universal => rfl
  | east hours minutes =>
      show (hoursAndMinutes? (padded 2 hours ++ ':' :: padded 2 minutes)).map _ = _
      rw [hoursAndMinutes?_padded h]
      rfl
  | west hours minutes =>
      show (hoursAndMinutes? (padded 2 hours ++ ':' :: padded 2 minutes)).map _ = _
      rw [hoursAndMinutes?_padded h]
      rfl

/-- An offset begins with a mark. -/
theorem exists_cons_offset (offset : Offset) : ∃ c rest, offset.chars = c :: rest ∧
    Text.isDigit c = false ∧ c ≠ '.' ∧ Unicode.isWhiteSpace c = false := by
  cases offset with
  | universal => exact ⟨_, _, rfl, by decide +kernel⟩
  | east hours minutes => exact ⟨_, _, rfl, by decide +kernel⟩
  | west hours minutes => exact ⟨_, _, rfl, by decide +kernel⟩

def InFourDigitYears (i : Instant) : Prop := 0 ≤ i.year ∧ i.year ≤ 9999

instance (i : Instant) : Decidable i.InFourDigitYears := by unfold InFourDigitYears; infer_instance

theorem dayInRange_of_fourDigits {i : Instant} (h : i.InFourDigitYears) :
    dayInRange (i.second / 86400) = true := by
  have hfirst := i.year_lt_iff 0
  have hlast := i.year_lt_iff 10000
  have hzero : Date.toDays ⟨0, 1, 1⟩ = -719528 := by decide +kernel
  have hend : Date.toDays ⟨10000, 1, 1⟩ = 2932897 := by decide +kernel
  have hmin : Date.toDays ⟨minYear, 1, 1⟩ = -96465292 := by decide +kernel
  have hmax : Date.toDays ⟨maxYear, 12, 31⟩ = 95026236 := by decide +kernel
  obtain ⟨hlow, hhigh⟩ := h
  unfold dayInRange
  rw [hmin, hmax, Bool.and_eq_true, decide_eq_true_iff, decide_eq_true_iff]
  omega

namespace Spelling

theorem chars_eq (s : Spelling) : s.chars =
    yearText s.date.year ++ '-' :: (padded 2 s.date.month ++ '-' :: (padded 2 s.date.day ++
      'T' :: (padded 2 s.hour ++ ':' :: (padded 2 s.minute ++ ':' :: (padded 2 s.second ++
        ((if s.fraction = [] then [] else '.' :: s.fraction) ++ s.offset.chars)))))) := by
  simp only [chars, List.append_assoc, List.cons_append]

theorem ofParts?_of_denotes {s : Spelling} {i : Instant} (hv : s.Valid) (hd : s.Denotes i)
    (hy : i.InFourDigitYears) :
    ofParts? s.date s.hour s.minute s.second s.nanos s.offset.seconds = some i := by
  have hsecond := hv.second
  -- only the sixtieth second has a number that is not its own
  have hleap : s.second - s.second / 60 = min s.second 59 ∧
      s.second / 60 * nanosPerSecond = if s.second = 60 then nanosPerSecond else 0 := by
    by_cases hs : s.second = 60
    · rw [hs]
      exact ⟨rfl, rfl⟩
    · have hzero : s.second / 60 = 0 := Nat.div_eq_of_lt (by omega)
      rw [hzero, if_neg hs, Nat.zero_mul]
      omega
  unfold ofParts?
  rw [if_pos ⟨hv.date, hv.year.1, hv.year.2, hv.hour, hv.minute, hsecond, hv.offset.bounds⟩]
  have htotal : s.date.toDays * 86400 + s.hour * 3600 + s.minute * 60 +
      (s.second - s.second / 60 : Nat) - s.offset.seconds = i.second := by
    rw [hleap.1, hd.second, seconds]
  simp only [htotal, hleap.2, ← hd.nano]
  exact dif_pos ⟨dayInRange_of_fourDigits hy, i.nano_lt⟩

/-- Every spelling of an instant is read as it. -/
theorem ofText?_of_denotes {s : Spelling} {i : Instant} (hv : s.Valid) (hd : s.Denotes i)
    (hy : i.InFourDigitYears) : ofText? s.text = some i := by
  obtain ⟨mark, rest, hoffset, hnotDigit, hnotPoint, hnotBlank⟩ := exists_cons_offset s.offset
  have hnext : ∀ c ∈ s.offset.chars.head?, Text.isDigit c = false ∧ c ≠ '.' := by
    rw [hoffset]
    intro c hc
    cases hc
    exact ⟨hnotDigit, hnotPoint⟩
  have hfraction := fraction?_digits hv.digits hv.precision hnext
  have hskip : skipBlanks s.offset.chars = s.offset.chars := by
    rw [hoffset]
    exact skipBlanks_cons hnotBlank rest
  have hdash : ∀ rest, mark? '-' ('-' :: rest) = some rest := mark?_cons (by decide +kernel)
  have hcolon : ∀ rest, mark? ':' (':' :: rest) = some rest := mark?_cons (by decide +kernel)
  have htwo : ∀ {n : Nat} (rest : List Char), n < 100 →
      number? 2 (padded 2 n ++ rest) = some (n, rest) :=
    fun rest h => number?_padded (by decide) h rest
  have hmonth : s.date.month < 100 := by
    have hmost := hv.date.2.1
    omega
  have hday : s.date.day < 100 := by
    have hmost := Date.day_le hv.date
    omega
  have hhour : s.hour < 100 := by
    have hmost := hv.hour
    omega
  have hminute : s.minute < 100 := by
    have hmost := hv.minute
    omega
  have hsecond : s.second < 100 := by
    have hmost := hv.second
    omega
  unfold ofText? text
  rw [String.toList_ofList, chars_eq]
  refine Option.bind_eq_some_iff.2 ⟨_, year?_yearText _ _, ?_⟩
  refine Option.bind_eq_some_iff.2 ⟨_, hdash _, ?_⟩
  refine Option.bind_eq_some_iff.2 ⟨_, htwo _ hmonth, ?_⟩
  refine Option.bind_eq_some_iff.2 ⟨_, hdash _, ?_⟩
  refine Option.bind_eq_some_iff.2 ⟨_, htwo _ hday, ?_⟩
  -- the date ends with the mark of the time
  refine Option.bind_eq_some_iff.2 ⟨_, rfl, ?_⟩
  refine Option.bind_eq_some_iff.2 ⟨_, htwo _ hhour, ?_⟩
  refine Option.bind_eq_some_iff.2 ⟨_, hcolon _, ?_⟩
  refine Option.bind_eq_some_iff.2 ⟨_, htwo _ hminute, ?_⟩
  refine Option.bind_eq_some_iff.2 ⟨_, hcolon _, ?_⟩
  refine Option.bind_eq_some_iff.2 ⟨_, htwo _ hsecond, ?_⟩
  refine Option.bind_eq_some_iff.2 ⟨_, hfraction, ?_⟩
  refine Option.bind_eq_some_iff.2 ⟨_, hskip.symm ▸ offset?_chars hv.offset, ?_⟩
  exact ofParts?_of_denotes hv hd hy

end Spelling

/-- The text spells the instant, in some offset and with some digits of its fraction. -/
def Spells (i : Instant) (text : String) : Prop :=
  ∃ s : Spelling, s.Valid ∧ s.Denotes i ∧ s.text = text

theorem ofText?_of_spells {i : Instant} {text : String} (hy : i.InFourDigitYears)
    (h : i.Spells text) : ofText? text = some i := by
  obtain ⟨s, hv, hd, rfl⟩ := h
  exact s.ofText?_of_denotes hv hd hy

/-! ## The written text -/

def fractionDigits (nano : Nat) : List Char :=
  if nano = 0 then []
  else if nano % 1000000 = 0 then padded 3 (nano / 1000000)
  else if nano % 1000 = 0 then padded 6 (nano / 1000)
  else padded 9 nano

theorem fractionText_eq (nano : Nat) :
    fractionText nano = if fractionDigits nano = [] then [] else '.' :: fractionDigits nano := by
  unfold fractionText fractionDigits
  split
  · rfl
  split
  · rw [if_neg (padded_ne_nil _ _)]
  split
  · rw [if_neg (padded_ne_nil _ _)]
  · rw [if_neg (padded_ne_nil _ _)]

structure DigitsOf (nano : Nat) (ds : List Char) : Prop where
  digits : ∀ c ∈ ds, Text.isDigit c = true
  precision : ds.length ≤ 9
  value : Text.natural ds * tenTo (9 - ds.length) = nano

theorem digitsOf_padded {width n : Nat} (hw : 0 < width) (hm : width ≤ 9) (h : n < 10 ^ width) :
    DigitsOf (n * tenTo (9 - width)) (padded width n) where
  digits _ hc := isDigit_of_mem_padded hc
  precision := by rwa [length_padded hw h]
  value := by rw [length_padded hw h, natural_padded]

theorem digitsOf_fractionDigits {nano : Nat} (h : nano < nanosPerSecond) :
    DigitsOf nano (fractionDigits nano) := by
  unfold nanosPerSecond at h
  unfold fractionDigits
  split
  · rename_i hzero
    exact ⟨nofun, by decide, hzero.symm⟩
  split
  · rename_i hmilli
    have hvalue : nano / 1000000 * tenTo (9 - 3) = nano := by
      rw [show tenTo (9 - 3) = 1000000 from rfl]
      omega
    have hdigits := digitsOf_padded (by decide : 0 < 3) (by decide)
      (by omega : nano / 1000000 < 10 ^ 3)
    rwa [hvalue] at hdigits
  split
  · rename_i hmicro
    have hvalue : nano / 1000 * tenTo (9 - 6) = nano := by
      rw [show tenTo (9 - 6) = 1000 from rfl]
      omega
    have hdigits := digitsOf_padded (by decide : 0 < 6) (by decide)
      (by omega : nano / 1000 < 10 ^ 6)
    rwa [hvalue] at hdigits
  · have hdigits := digitsOf_padded (by decide : 0 < 9) (by decide) (by omega : nano < 10 ^ 9)
    rwa [show nano * tenTo (9 - 9) = nano from Nat.mul_one nano] at hdigits

def LeapEndsMinute (i : Instant) : Prop := nanosPerSecond ≤ i.nano → i.second % 60 = 59

def spelling (i : Instant) : Spelling where
  date := Date.ofDays (i.second / 86400)
  hour := (i.second % 86400).toNat / 3600
  minute := (i.second % 86400).toNat / 60 % 60
  second := (i.second % 86400).toNat % 60 + i.nano / nanosPerSecond
  fraction := fractionDigits (i.nano % nanosPerSecond)

theorem text_spelling (i : Instant) : i.spelling.text = i.toText := by
  unfold Spelling.text Spelling.chars spelling toText chars
  rw [← fractionText_eq]
  rfl

theorem valid_spelling {i : Instant} (hy : i.InFourDigitYears) :
    i.spelling.Valid := by
  have hnano := i.nano_lt
  have hdigits := digitsOf_fractionDigits (Nat.mod_lt i.nano (by decide : 0 < nanosPerSecond))
  have hyear : minYear ≤ i.year ∧ i.year ≤ maxYear := by
    obtain ⟨hlow, hhigh⟩ := hy
    unfold minYear maxYear
    omega
  have hsecond : (i.second % 86400).toNat % 60 + i.nano / nanosPerSecond ≤ 60 := by
    unfold nanosPerSecond
    omega
  exact ⟨Date.valid_ofDays _, hyear, by unfold spelling; dsimp only; omega,
    by unfold spelling; dsimp only; omega, hsecond, hdigits.digits, hdigits.precision, trivial⟩

theorem denotes_spelling {i : Instant} (hl : i.LeapEndsMinute) : i.spelling.Denotes i := by
  have hnano := i.nano_lt
  have hdigits := digitsOf_fractionDigits (Nat.mod_lt i.nano (by decide : 0 < nanosPerSecond))
  unfold LeapEndsMinute at hl
  constructor
  · unfold Spelling.seconds spelling
    dsimp only
    rw [Date.toDays_ofDays]
    simp only [Offset.seconds]
    unfold nanosPerSecond at hl ⊢
    omega
  · unfold Spelling.nanos spelling
    dsimp only
    rw [hdigits.value]
    unfold nanosPerSecond at hl ⊢
    split
    · omega
    · omega

theorem spells_toText {i : Instant} (hl : i.LeapEndsMinute) (hy : i.InFourDigitYears) :
    i.Spells i.toText := ⟨i.spelling, valid_spelling hy, denotes_spelling hl, i.text_spelling⟩

/-! ## What is read -/

theorem fraction?_lt {cs rest : List Char} {nano : Nat} (h : fraction? cs = some (nano, rest)) :
    nano < nanosPerSecond := by
  unfold fraction? at h
  split at h
  · rename_i after
    dsimp only at h
    split at h
    · cases h
    · cases h
      have hdigits : ∀ c ∈ (after.takeWhile Text.isDigit).take 9, Text.isDigit c = true :=
        fun c hc => List.mem_takeWhile_imp (List.mem_of_mem_take hc)
      have hlength : ((after.takeWhile Text.isDigit).take 9).length ≤ 9 := List.length_take_le 9 _
      have hvalue := Text.natural_lt hdigits
      generalize (after.takeWhile Text.isDigit).take 9 = used at hlength hvalue
      have htens : nanosPerSecond = 10 ^ used.length * tenTo (9 - used.length) := by
        show 10 ^ 9 = 10 ^ used.length * 10 ^ (9 - used.length)
        rw [← Nat.pow_add, Nat.add_sub_cancel' hlength]
      rw [htens]
      exact Nat.mul_lt_mul_of_pos_right hvalue (Nat.pow_pos (by decide))
  · cases h
    decide

theorem hoursAndMinutes?_minutes {cs rest : List Char} {seconds : Nat}
    (h : hoursAndMinutes? cs = some (seconds, rest)) : (seconds : Int) % 60 = 0 := by
  unfold hoursAndMinutes? at h
  obtain ⟨⟨hours, _⟩, -, h⟩ := Option.bind_eq_some_iff.1 h
  obtain ⟨⟨minutes, _⟩, -, h⟩ := Option.bind_eq_some_iff.1 h
  dsimp only at h
  split at h
  · cases h
  · cases h
    omega

/-- Offsets are whole minutes. -/
theorem offset?_minutes {cs rest : List Char} {offset : Int}
    (h : offset? cs = some (offset, rest)) :
    offset % 60 = 0 := by
  unfold offset? at h
  dsimp only at h
  split at h
  · cases h
    rfl
  · cases h
    rfl
  · obtain ⟨⟨seconds, after⟩, hf, he⟩ := Option.map_eq_some_iff.1 h
    cases he
    exact hoursAndMinutes?_minutes hf
  · obtain ⟨⟨seconds, after⟩, hf, he⟩ := Option.map_eq_some_iff.1 h
    cases he
    have hwhole := hoursAndMinutes?_minutes hf
    omega
  · obtain ⟨⟨seconds, after⟩, hf, he⟩ := Option.map_eq_some_iff.1 h
    cases he
    have hwhole := hoursAndMinutes?_minutes hf
    omega
  · split at h
    · cases h
      rfl
    · cases h
  · cases h

theorem leapEndsMinute_of_ofParts? {date : Date} {hour minute second nano : Nat} {offset : Int}
    {i : Instant} (h : ofParts? date hour minute second nano offset = some i)
    (hn : nano < nanosPerSecond) (ho : offset % 60 = 0) : i.LeapEndsMinute := by
  unfold ofParts? at h
  split at h
  · rename_i hv
    dsimp only at h
    split at h
    · cases h
      intro hl
      have hmost := hv.2.2.2.2.2.1
      dsimp only at hl ⊢
      unfold nanosPerSecond at hn hl
      have hsecond : second = 60 := by omega
      subst hsecond
      omega
    · cases h
  · cases h

/-- A leap second is read only at the end of a minute. -/
theorem leapEndsMinute_of_ofText? {text : String} {i : Instant} (h : ofText? text = some i) :
    i.LeapEndsMinute := by
  unfold ofText? ofChars? at h
  obtain ⟨⟨year, _⟩, -, h⟩ := Option.bind_eq_some_iff.1 h
  obtain ⟨_, -, h⟩ := Option.bind_eq_some_iff.1 h
  obtain ⟨⟨month, _⟩, -, h⟩ := Option.bind_eq_some_iff.1 h
  obtain ⟨_, -, h⟩ := Option.bind_eq_some_iff.1 h
  obtain ⟨⟨day, _⟩, -, h⟩ := Option.bind_eq_some_iff.1 h
  dsimp only at h
  -- the time of day is read alike after each of the three marks
  split at h
  case h_4 => cases h
  all_goals
    obtain ⟨_, -, h⟩ := Option.bind_eq_some_iff.1 h
    obtain ⟨⟨hour, _⟩, -, h⟩ := Option.bind_eq_some_iff.1 h
    obtain ⟨_, -, h⟩ := Option.bind_eq_some_iff.1 h
    obtain ⟨⟨minute, _⟩, -, h⟩ := Option.bind_eq_some_iff.1 h
    obtain ⟨_, -, h⟩ := Option.bind_eq_some_iff.1 h
    obtain ⟨⟨second, _⟩, -, h⟩ := Option.bind_eq_some_iff.1 h
    obtain ⟨⟨nano, _⟩, hfraction, h⟩ := Option.bind_eq_some_iff.1 h
    obtain ⟨⟨offset, _⟩, hoffset, h⟩ := Option.bind_eq_some_iff.1 h
    dsimp only at h
    split at h
    · exact leapEndsMinute_of_ofParts? h (fraction?_lt hfraction) (offset?_minutes hoffset)
    · cases h

end Instant

end BuildScheduler
