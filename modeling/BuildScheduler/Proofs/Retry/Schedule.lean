import BuildScheduler.Proofs.Retry.Success
import Mathlib.Algebra.BigOperators.Group.List.Basic
import Mathlib.Algebra.GroupWithZero.Nat

/-!
# The schedule of a run

Without a limit, attempts follow one another: each begins when the one before it has failed and the
back-off is over, up to the first that succeeds, or the last one allowed. `run_as_scheduled` says
that a run with a limit is the same run, or what of it comes before the limit is over.
-/

namespace BuildScheduler

attribute [ext] RetryRun

namespace RetryPolicy

/-! ## Times -/

section Times

variable (policy : RetryPolicy) (durations : Nat → Option Nat)

/-- When an attempt begins if all before it fail; none if one of these never ends. -/
def beginsAt? : Nat → Option Nat
  | 0 => some 0
  | number + 1 => do
      let time ← beginsAt? number
      let duration ← durations number
      pure (time + duration + policy.backoff (number + 1))

def endsAt? (number : Nat) : Option Nat := do
  let time ← policy.beginsAt? durations number
  let duration ← durations number
  pure (time + duration)

/-- How long a run takes whose last attempt has the number `last`, at given durations. -/
def timeOf (given : Nat → Nat) (last : Nat) : Nat :=
  ((List.range (last + 1)).map given).sum +
    ((List.range last).map fun number => policy.backoff (number + 1)).sum

def beginOf (given : Nat → Nat) (number : Nat) : Nat :=
  ((List.range number).map fun earlier => given earlier + policy.backoff (earlier + 1)).sum

variable {policy durations}

theorem endsAt?_eq_some_iff {number time : Nat} :
    policy.endsAt? durations number = some time ↔
      ∃ start duration, policy.beginsAt? durations number = some start ∧
        durations number = some duration ∧ start + duration = time := by
  simp only [endsAt?, Option.bind_eq_bind, Option.pure_def, Option.bind_eq_some_iff,
    Option.some.injEq]
  exact exists_congr fun start => ⟨fun ⟨hs, duration, hd, h⟩ => ⟨duration, hs, hd, h⟩,
    fun ⟨duration, hs, hd, h⟩ => ⟨hs, duration, hd, h⟩⟩

theorem beginsAt?_succ (number : Nat) :
    policy.beginsAt? durations (number + 1) =
      (policy.endsAt? durations number).map (· + policy.backoff (number + 1)) := by
  rw [beginsAt?, endsAt?]
  cases policy.beginsAt? durations number with
  | none => rfl
  | some time =>
      cases durations number with
      | none => rfl
      | some duration => rfl

theorem beginsAt?_succ_eq_some_iff {number time : Nat} :
    policy.beginsAt? durations (number + 1) = some time ↔
      ∃ finish, policy.endsAt? durations number = some finish ∧
        finish + policy.backoff (number + 1) = time := by
  rw [beginsAt?_succ, Option.map_eq_some_iff]

/-- Whatever ends begins after all attempts before it have ended. -/
theorem exists_endsAt?_of_lt {earlier later start : Nat} (h : earlier < later)
    (hs : policy.beginsAt? durations later = some start) :
    ∃ finish, policy.endsAt? durations earlier = some finish ∧
      finish + policy.backoff (earlier + 1) ≤ start := by
  induction later generalizing start with
  | zero => omega
  | succ later ih =>
      obtain ⟨finish, hf, rfl⟩ := beginsAt?_succ_eq_some_iff.1 hs
      obtain rfl | hlt := Nat.eq_or_lt_of_le (Nat.le_of_lt_succ h)
      · exact ⟨finish, hf, Nat.le_refl _⟩
      · obtain ⟨middle, duration, hm, -, rfl⟩ := endsAt?_eq_some_iff.1 hf
        obtain ⟨first, hfirst, hle⟩ := ih hlt hm
        exact ⟨first, hfirst, by omega⟩

theorem exists_endsAt?_of_le {earlier later total : Nat} (h : earlier ≤ later)
    (he : policy.endsAt? durations later = some total) :
    ∃ finish, policy.endsAt? durations earlier = some finish ∧ finish ≤ total := by
  obtain rfl | hlt := Nat.eq_or_lt_of_le h
  · exact ⟨total, he, Nat.le_refl _⟩
  · obtain ⟨start, duration, hs, -, rfl⟩ := endsAt?_eq_some_iff.1 he
    obtain ⟨finish, hf, hle⟩ := exists_endsAt?_of_lt hlt hs
    exact ⟨finish, hf, by omega⟩

theorem exists_beginsAt?_of_le {earlier later total : Nat} (h : earlier ≤ later)
    (he : policy.endsAt? durations later = some total) :
    ∃ start, policy.beginsAt? durations earlier = some start ∧ start ≤ total := by
  obtain ⟨finish, hf, hle⟩ := exists_endsAt?_of_le h he
  obtain ⟨start, duration, hs, -, rfl⟩ := endsAt?_eq_some_iff.1 hf
  exact ⟨start, hs, by omega⟩

theorem endsAt?_eq_none {number last : Nat} (h : number ≤ last) (hd : durations number = none) :
    policy.endsAt? durations last = none := by
  cases he : policy.endsAt? durations last with
  | none => rfl
  | some total =>
      obtain ⟨finish, hf, -⟩ := exists_endsAt?_of_le h he
      obtain ⟨-, duration, -, hs, -⟩ := endsAt?_eq_some_iff.1 hf
      cases hd.symm.trans hs

theorem beginsAt?_of_given {given : Nat → Nat} {number : Nat}
    (h : ∀ earlier < number, durations earlier = some (given earlier)) :
    policy.beginsAt? durations number = some (policy.beginOf given number) := by
  induction number with
  | zero => rfl
  | succ number ih =>
      rw [beginsAt?, ih fun earlier he => h earlier (Nat.lt_succ_of_lt he),
        h number (Nat.lt_succ_self number), beginOf, beginOf, List.range_succ, List.map_append,
        List.sum_append]
      simp [Nat.add_assoc]

theorem endsAt?_of_given {given : Nat → Nat} {last : Nat}
    (h : ∀ number ≤ last, durations number = some (given number)) :
    policy.endsAt? durations last = some (policy.timeOf given last) := by
  rw [endsAt?, beginsAt?_of_given fun earlier he => h earlier (Nat.le_of_lt he),
    h last (Nat.le_refl last), beginOf, timeOf, List.range_succ, List.map_append, List.sum_append,
    List.sum_map_add]
  simp [Nat.add_right_comm]

end Times

/-! ## The deciding attempt -/

/-- The number of the attempt with which a run ends if time allows: the first that succeeds, or
else the last one. -/
def decisive (policy : RetryPolicy) (succeeds : Nat → Bool) : Nat :=
  ((List.range policy.attempts).find? succeeds).getD (policy.attempts - 1)

theorem decisive_spec (policy : RetryPolicy) (succeeds : Nat → Bool) :
    policy.decisive succeeds < policy.attempts ∧
      (∀ number < policy.decisive succeeds, succeeds number = false) ∧
      (succeeds (policy.decisive succeeds) = true ∨
        policy.decisive succeeds + 1 = policy.attempts) := by
  have ha : 1 ≤ policy.attempts := Nat.le_max_left _ _
  unfold decisive
  cases hf : (List.range policy.attempts).find? succeeds with
  | none =>
      rw [List.find?_range_eq_none] at hf
      rw [Option.getD_none]
      exact ⟨by omega, fun number hn => by simpa using hf number (by omega), .inr (by omega)⟩
  | some number =>
      rw [List.find?_range_eq_some] at hf
      rw [Option.getD_some]
      obtain ⟨hs, hm, hb⟩ := hf
      exact ⟨List.mem_range.1 hm, fun earlier he => by simpa using hb earlier he, .inl hs⟩

/-! ## Runs -/

theorem isLate_eq_false_iff {policy : RetryPolicy} {time : Nat} :
    policy.isLate time = false ↔ ∀ limit, policy.timeout = some limit → time ≤ limit := by
  unfold isLate
  cases policy.timeout <;> simp

theorem isLate_iff {policy : RetryPolicy} {limit time : Nat} (ht : policy.timeout = some limit) :
    policy.isLate time = true ↔ limit < time := by
  simp [isLate, ht]

theorem isLate_of_le {policy : RetryPolicy} {time later : Nat} (h : time ≤ later)
    (hl : policy.isLate later = false) : policy.isLate time = false :=
  isLate_eq_false_iff.2 fun limit ht => Nat.le_trans h (isLate_eq_false_iff.1 hl limit ht)

def ending : Except ε α → RetryResult ε α
  | .ok value => .ok value
  | .error error => .exhausted error

/-- Of the attempts from one on, it alone begins by the limit if the next would come after. -/
theorem filter_begins {policy : RetryPolicy} {durations : Nat → Option Nat}
    {made time limit count : Nat} (hbegins : policy.beginsAt? durations made = some time)
    (htime : time ≤ limit) (hnext : ∀ finish, policy.endsAt? durations made = some finish →
      limit < finish + policy.backoff (made + 1)) :
    ((List.range' made (count + 1)).filterMap (policy.beginsAt? durations)).filter (· ≤ limit) =
      [time] := by
  rw [List.range'_succ, List.filterMap_cons_some hbegins,
    List.filter_cons_of_pos (by simpa using htime)]
  refine congrArg _ (List.filter_eq_nil_iff.2 fun start hm => ?_)
  obtain ⟨number, hn, hs⟩ := List.mem_filterMap.1 hm
  have hlt : made < number := by
    have := List.mem_range'.1 hn
    omega
  obtain ⟨finish, hf, hle⟩ := exists_endsAt?_of_lt hlt hs
  have := hnext finish hf
  simp
  omega

/-- An attempt that failed decides only as the last one. -/
theorem lt_of_error {script : Nat → Attempt ε α} {left made last : Nat} {error : ε}
    (hmade : made ≤ last)
    (hlast : (∃ value, (script last).result = .ok value) ∨ last + 1 = made + left)
    (hr : (script made).result = .error error) (hleft : 1 < left) : made < last := by
  refine Nat.lt_of_le_of_ne hmade ?_
  rintro rfl
  obtain ⟨value, hv⟩ | hl := hlast
  · cases hr.symm.trans hv
  · omega

section Runs

variable {policy : RetryPolicy} {script : Nat → Attempt ε α} {left made time last : Nat}
  {run : RetryRun ε α} (runs : Runs policy script left made time run)
  (hbegins : policy.beginsAt? (fun number => (script number).duration) made = some time)
  (hmade : made ≤ last) (hleft : last < made + left)
  (hfailed : ∀ number, made ≤ number → number < last →
    ∀ value, (script number).result ≠ .ok value)
  (hlast : (∃ value, (script last).result = .ok value) ∨ last + 1 = made + left)

include runs hbegins hmade hleft hfailed hlast

/-- What ends in time runs up to its deciding attempt. -/
theorem Runs.whole {total : Nat}
    (hends : policy.endsAt? (fun number => (script number).duration) last = some total)
    (htotal : policy.isLate total = false) :
    run.result = ending (script last).result ∧ run.elapsed = total ∧
      run.starts.map some = (List.range' made (last - made + 1)).map
        (policy.beginsAt? fun number => (script number).duration) ∧
      run.backoffs = List.range' (made + 1) (last - made) := by
  induction runs with
  | spent made time => omega
  | stuck left made time hd ht => cases hends.symm.trans (endsAt?_eq_none hmade hd)
  | abandoned left made time limit hd ht => cases hends.symm.trans (endsAt?_eq_none hmade hd)
  | late left made time duration hd hl =>
      have hf := endsAt?_eq_some_iff.2 ⟨time, duration, hbegins, hd, rfl⟩
      obtain ⟨finish, he, hle⟩ := exists_endsAt?_of_le hmade hends
      cases hf.symm.trans he
      cases hl.symm.trans (isLate_of_le hle htotal)
  | succeeded left made time duration value hd hl hr =>
      obtain rfl : made = last := Nat.eq_or_lt_of_le hmade |>.resolve_right fun hlt =>
        hfailed made (Nat.le_refl made) hlt value hr
      cases hends.symm.trans (endsAt?_eq_some_iff.2 ⟨time, duration, hbegins, hd, rfl⟩)
      simp [ending, hr, hbegins]
  | exhausted made time duration error hd hl hr =>
      obtain rfl : made = last := by omega
      cases hends.symm.trans (endsAt?_eq_some_iff.2 ⟨time, duration, hbegins, hd, rfl⟩)
      simp [ending, hr, hbegins]
  | overslept left made time duration error hd hl hr hb =>
      have hlt := lt_of_error hmade hlast hr (by omega)
      have hf := endsAt?_eq_some_iff.2 ⟨time, duration, hbegins, hd, rfl⟩
      have hnext := beginsAt?_succ_eq_some_iff.2 ⟨_, hf, rfl⟩
      obtain ⟨start, hs, hle⟩ := exists_beginsAt?_of_le hlt hends
      cases hnext.symm.trans hs
      cases hb.symm.trans (isLate_of_le hle htotal)
  | again left made time duration error rest hd hl hr hb runs ih =>
      have hlt := lt_of_error hmade hlast hr (by omega)
      have hf := endsAt?_eq_some_iff.2 ⟨time, duration, hbegins, hd, rfl⟩
      have hnext := beginsAt?_succ_eq_some_iff.2 ⟨_, hf, rfl⟩
      obtain ⟨hresult, helapsed, hstarts, hbackoffs⟩ := ih hnext hlt (by omega)
        (fun number hn => hfailed number (Nat.le_of_succ_le hn)) (hlast.imp_right fun h => by omega)
      have hcount : last - made = last - (made + 1) + 1 := by omega
      refine ⟨hresult, helapsed, ?_, ?_⟩
      · rw [hcount, List.range'_succ, List.map_cons, List.map_cons, hstarts, hbegins]
      · rw [hcount, List.range'_succ, hbackoffs]

/-- What does not end in time is cut at the limit. -/
theorem Runs.cut {limit : Nat} (ht : policy.timeout = some limit) (htime : time ≤ limit)
    (hends : ∀ total, policy.endsAt? (fun number => (script number).duration) last = some total →
      limit < total) :
    run.result = .timeout ∧ run.elapsed = limit ∧
      run.starts = ((List.range' made (last - made + 1)).filterMap
        (policy.beginsAt? fun number => (script number).duration)).filter (· ≤ limit) := by
  have helapsed : policy.timeout.getD 0 = limit := by rw [ht, Option.getD_some]
  induction runs with
  | spent made time => omega
  | stuck left made time hd hnone => cases hnone.symm.trans ht
  | abandoned left made time other hd ht =>
      refine ⟨rfl, helapsed, (filter_begins hbegins htime fun finish hf => ?_).symm⟩
      cases (endsAt?_eq_none (Nat.le_refl made) hd).symm.trans hf
  | late left made time duration hd hl =>
      have hf := endsAt?_eq_some_iff.2 ⟨time, duration, hbegins, hd, rfl⟩
      refine ⟨rfl, helapsed, (filter_begins hbegins htime fun finish he => ?_).symm⟩
      cases hf.symm.trans he
      exact Nat.lt_add_right _ ((isLate_iff ht).1 hl)
  | succeeded left made time duration value hd hl hr =>
      obtain rfl : made = last := Nat.eq_or_lt_of_le hmade |>.resolve_right fun hlt =>
        hfailed made (Nat.le_refl made) hlt value hr
      have hlate := hends _ (endsAt?_eq_some_iff.2 ⟨time, duration, hbegins, hd, rfl⟩)
      cases hl.symm.trans ((isLate_iff ht).2 hlate)
  | exhausted made time duration error hd hl hr =>
      obtain rfl : made = last := by omega
      have hlate := hends _ (endsAt?_eq_some_iff.2 ⟨time, duration, hbegins, hd, rfl⟩)
      cases hl.symm.trans ((isLate_iff ht).2 hlate)
  | overslept left made time duration error hd hl hr hb =>
      have hf := endsAt?_eq_some_iff.2 ⟨time, duration, hbegins, hd, rfl⟩
      refine ⟨rfl, helapsed, (filter_begins hbegins htime fun finish he => ?_).symm⟩
      cases hf.symm.trans he
      exact (isLate_iff ht).1 hb
  | again left made time duration error rest hd hl hr hb runs ih =>
      have hlt := lt_of_error hmade hlast hr (by omega)
      have hf := endsAt?_eq_some_iff.2 ⟨time, duration, hbegins, hd, rfl⟩
      have hnext := beginsAt?_succ_eq_some_iff.2 ⟨_, hf, rfl⟩
      obtain ⟨hresult, htotal, hstarts⟩ := ih hnext hlt (by omega)
        (fun number hn => hfailed number (Nat.le_of_succ_le hn)) (hlast.imp_right fun h => by omega)
        (isLate_eq_false_iff.1 hb limit ht)
      have hcount : last - made = last - (made + 1) + 1 := by omega
      refine ⟨hresult, htotal, ?_⟩
      rw [hcount, List.range'_succ, List.filterMap_cons_some hbegins,
        List.filter_cons_of_pos (by simpa using htime), hstarts]

end Runs

section WholeRun

variable {policy : RetryPolicy} (script : Nat → Attempt ε α) {last : Nat}
  (hlt : last < policy.attempts)
  (hfailed : ∀ number < last, ∀ value, (script number).result ≠ .ok value)
  (hlast : (∃ value, (script last).result = .ok value) ∨ last + 1 = policy.attempts)
include hlt hfailed hlast

/-- A run that ends in time, at given durations up to its deciding attempt. -/
theorem run_whole {given : Nat → Nat}
    (hgiven : ∀ number ≤ last, (script number).duration = some (given number))
    (htotal : policy.isLate (policy.timeOf given last) = false) :
    (policy.run script).result = ending (script last).result ∧
      (policy.run script).elapsed = policy.timeOf given last ∧
      (policy.run script).starts = (List.range (last + 1)).map (policy.beginOf given) ∧
      (policy.run script).backoffs = (List.range last).map (· + 1) := by
  rw [← Nat.zero_add policy.attempts] at hlt hlast
  obtain ⟨hresult, helapsed, hstarts, hbackoffs⟩ :=
    (runs_runFrom policy script policy.attempts 0 0).whole rfl (Nat.zero_le last) hlt
      (fun number _ hn => hfailed number hn) hlast (endsAt?_of_given hgiven) htotal
  refine ⟨hresult, helapsed, List.map_injective_iff.2 (fun _ _ => Option.some.inj) ?_, ?_⟩
  · rw [List.map_map, List.range_eq_range']
    refine hstarts.trans (List.map_congr_left fun number hm => ?_)
    have hn := List.mem_range'_1.1 hm
    exact beginsAt?_of_given fun earlier he => hgiven earlier (by omega)
  · rw [Nat.sub_zero, List.range'_eq_map_range, Nat.zero_add] at hbackoffs
    exact hbackoffs.trans (List.map_congr_left fun number _ => Nat.add_comm 1 number)

/-- A run whose deciding attempt does not end in time. -/
theorem run_cut {limit : Nat} (ht : policy.timeout = some limit)
    (hends : ∀ total, policy.endsAt? (fun number => (script number).duration) last = some total →
      limit < total) :
    (policy.run script).result = .timeout ∧ (policy.run script).elapsed = limit ∧
      (policy.run script).starts = ((List.range (last + 1)).filterMap
        (policy.beginsAt? fun number => (script number).duration)).filter (· ≤ limit) := by
  rw [← Nat.zero_add policy.attempts] at hlt hlast
  rw [List.range_eq_range']
  exact (runs_runFrom policy script policy.attempts 0 0).cut rfl (Nat.zero_le last) hlt
    (fun number _ hn => hfailed number hn) hlast ht (Nat.zero_le limit) hends

end WholeRun

/-! ## Attempts that end -/

section Ending

variable (policy : RetryPolicy) (durations : Nat → Nat) (results : Nat → Except ε α)

def lasting (number : Nat) : Attempt ε α := ⟨some (durations number), results number⟩

/-- The number of the first attempt that succeeds, or else of the last one. -/
def lastOf : Nat := policy.decisive fun number => (results number).isOk

def scheduled : RetryRun ε α where
  result := ending (results (policy.lastOf results))
  starts := (List.range (policy.lastOf results + 1)).map (policy.beginOf durations)
  backoffs := (List.range (policy.lastOf results)).map (· + 1)
  elapsed := policy.timeOf durations (policy.lastOf results)

theorem isOk_iff {result : Except ε α} : result.isOk = true ↔ ∃ value, result = .ok value := by
  cases result <;> simp [Except.isOk, Except.toBool]

theorem isOk_eq_false_iff {result : Except ε α} :
    result.isOk = false ↔ ∃ error, result = .error error := by
  cases result <;> simp [Except.isOk, Except.toBool]

theorem lastOf_spec : policy.lastOf results < policy.attempts ∧
    (∀ number < policy.lastOf results, ∃ error, results number = .error error) ∧
    ((∃ value, results (policy.lastOf results) = .ok value) ∨
      policy.lastOf results + 1 = policy.attempts) := by
  obtain ⟨hlt, hbefore, hlast⟩ := policy.decisive_spec fun number => (results number).isOk
  exact ⟨hlt, fun number hn => isOk_eq_false_iff.1 (hbefore number hn),
    hlast.imp_left isOk_iff.1⟩

variable {policy durations results}

theorem ne_ok_of_lt_lastOf {number : Nat} (h : number < policy.lastOf results) (value : α) :
    results number ≠ .ok value := by
  obtain ⟨error, he⟩ := (policy.lastOf_spec results).2.1 number h
  rw [he]
  exact nofun

theorem beginsAt?_lasting :
    (policy.beginsAt? fun number => (lasting durations results number).duration) =
      some ∘ policy.beginOf durations :=
  funext fun _ => beginsAt?_of_given fun _ _ => rfl

theorem run_of_inTime
    (h : policy.isLate (policy.timeOf durations (policy.lastOf results)) = false) :
    policy.run (lasting durations results) = policy.scheduled durations results := by
  obtain ⟨hlt, -, hlast⟩ := policy.lastOf_spec results
  obtain ⟨hresult, helapsed, hstarts, hbackoffs⟩ :=
    run_whole (lasting durations results) hlt (fun _ hn => ne_ok_of_lt_lastOf hn) hlast
      (fun _ _ => rfl) h
  exact RetryRun.ext hresult hstarts hbackoffs helapsed

theorem run_of_late {limit : Nat} (ht : policy.timeout = some limit)
    (h : limit < policy.timeOf durations (policy.lastOf results)) :
    let run := policy.run (lasting durations results)
    run.result = .timeout ∧ run.elapsed = limit ∧
      run.starts = (policy.scheduled durations results).starts.filter (· ≤ limit) := by
  intro run
  obtain ⟨hlt, -, hlast⟩ := policy.lastOf_spec results
  obtain ⟨hresult, helapsed, hstarts⟩ :=
    run_cut (lasting durations results) hlt (fun _ hn => ne_ok_of_lt_lastOf hn) hlast ht
      fun total hends => by
        cases (endsAt?_of_given fun _ _ => rfl).symm.trans hends
        exact h
  rw [beginsAt?_lasting, List.filterMap_eq_map] at hstarts
  exact ⟨hresult, helapsed, hstarts⟩

end Ending

/-- Attempts of given durations and results, up to the first that succeeds, or else the last one
allowed, are made one after another: each begins when all before it have ended and been backed off
from, and the back-off is asked once between each two. If the time they take together is within the
limit, the run ends then, with the value of the last of them or with its error. Else it ends at the
limit, after the attempts that begin no later. -/
theorem run_as_scheduled (policy : RetryPolicy) (durations : Nat → Nat)
    (results : Nat → Except ε α) :
    let run := policy.run (lasting durations results)
    let untimed := { policy with timeout := none }.run (lasting durations results)
    let attempts := max 1 policy.maxAttempts
    let last := policy.lastOf results
    let total := ((List.range (last + 1)).map durations).sum +
      ((List.range last).map fun number => policy.backoff (number + 1)).sum
    (last < attempts ∧ (∀ number < last, ∃ error, results number = .error error) ∧
      ((∃ value, results last = .ok value) ∨ last + 1 = attempts)) ∧
    untimed = {
      result := ending (results last)
      starts := (List.range (last + 1)).map fun number => ((List.range number).map fun earlier =>
        durations earlier + policy.backoff (earlier + 1)).sum
      backoffs := (List.range last).map (· + 1)
      elapsed := total } ∧
    ((∀ limit, policy.timeout = some limit → total ≤ limit) → run = untimed) ∧
    ∀ limit, policy.timeout = some limit → limit < total →
      run.result = .timeout ∧ run.elapsed = limit ∧
        run.starts = untimed.starts.filter (· ≤ limit) := by
  intro run untimed attempts last total
  have huntimed : untimed = policy.scheduled durations results :=
    run_of_inTime (isLate_eq_false_iff.2 nofun)
  refine ⟨policy.lastOf_spec results, huntimed, ?_, ?_⟩
  · intro h
    exact (run_of_inTime (isLate_eq_false_iff.2 h)).trans huntimed.symm
  · intro limit ht h
    rw [huntimed]
    exact run_of_late ht h

/-- The third attempt ends exactly at a limit of 40, and a limit of 15 falls into the second
back-off. -/
theorem run_as_scheduled_of_three :
    let durations (number : Nat) : Nat := [3, 5, 20].getD number 0
    let results (number : Nat) : Except String Nat :=
      if number = 2 then .ok 7 else .error "busy"
    let policy (limit : Nat) : RetryPolicy :=
      { timeout := some limit, maxAttempts := 3, backoff := (· * 4) }
    let run (limit : Nat) := (policy limit).run (lasting durations results)
    (∀ limit, (policy 40).timeout = some limit → 40 ≤ limit) ∧
    run 40 = { result := .ok 7, starts := [0, 7, 20], backoffs := [1, 2], elapsed := 40 } ∧
    (policy 15).timeout = some 15 ∧ 15 < 40 ∧
    (run 15).result = .timeout ∧ (run 15).elapsed = 15 ∧ (run 15).starts = [0, 7] := by
  intro durations results policy run
  have hlimit : ∀ limit, (policy 40).timeout = some limit → 40 ≤ limit := by
    rintro limit ⟨⟩
    exact Nat.le_refl 40
  obtain ⟨-, huntimed, hwhole, -⟩ := run_as_scheduled (policy 40) durations results
  obtain ⟨-, hsame, -, hcut⟩ := run_as_scheduled (policy 15) durations results
  obtain ⟨hresult, helapsed, hstarts⟩ := hcut 15 rfl (by decide)
  refine ⟨hlimit, (hwhole hlimit).trans huntimed, rfl, by decide, hresult, helapsed, ?_⟩
  rw [hsame] at hstarts
  exact hstarts

/-- With a limit of no time at all, the first attempt is begun although it does not begin before the
limit. -/
theorem begun_at_limit :
    let policy : RetryPolicy := { timeout := some 0, maxAttempts := 1 }
    let script := lasting (fun _ => 5000000) fun _ => (.ok () : Except Unit Unit)
    let run := policy.run script
    let untimed := { policy with timeout := none }.run script
    0 < untimed.elapsed ∧ run.result = .timeout ∧ run.starts = [0] ∧
      run.starts ≠ untimed.starts.filter (· < 0) := by
  exact ⟨by decide, rfl, rfl, by decide⟩

end RetryPolicy

end BuildScheduler
