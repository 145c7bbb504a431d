import BuildScheduler.Retry

/-!
# When a run of attempts succeeds

A run gives the value of an attempt if and only if the attempt was begun, succeeds and ends within
the limit. `Runs` lists the ways in which a run goes on from an attempt.
-/

namespace BuildScheduler

namespace RetryPolicy

/-- How a run goes on with some attempts left, from number `made` at a time. -/
inductive Runs (policy : RetryPolicy) (script : Nat → Attempt ε α) :
    Nat → Nat → Nat → RetryRun ε α → Prop where
  | spent (made time : Nat) : Runs policy script 0 made time ⟨.pending, [], [], time⟩
  | stuck (left made time : Nat) (hd : (script made).duration = none)
      (ht : policy.timeout = none) :
      Runs policy script (left + 1) made time ⟨.pending, [time], [], time⟩
  | abandoned (left made time limit : Nat) (hd : (script made).duration = none)
      (ht : policy.timeout = some limit) :
      Runs policy script (left + 1) made time (policy.timedOut [time] [])
  | late (left made time duration : Nat) (hd : (script made).duration = some duration)
      (hl : policy.isLate (time + duration) = true) :
      Runs policy script (left + 1) made time (policy.timedOut [time] [])
  | succeeded (left made time duration : Nat) (value : α)
      (hd : (script made).duration = some duration)
      (hl : policy.isLate (time + duration) = false) (hr : (script made).result = .ok value) :
      Runs policy script (left + 1) made time ⟨.ok value, [time], [], time + duration⟩
  | exhausted (made time duration : Nat) (error : ε)
      (hd : (script made).duration = some duration)
      (hl : policy.isLate (time + duration) = false)
      (hr : (script made).result = .error error) :
      Runs policy script 1 made time ⟨.exhausted error, [time], [], time + duration⟩
  | overslept (left made time duration : Nat) (error : ε)
      (hd : (script made).duration = some duration)
      (hl : policy.isLate (time + duration) = false)
      (hr : (script made).result = .error error)
      (hb : policy.isLate (time + duration + policy.backoff (made + 1)) = true) :
      Runs policy script (left + 2) made time (policy.timedOut [time] [made + 1])
  | again (left made time duration : Nat) (error : ε) (rest : RetryRun ε α)
      (hd : (script made).duration = some duration)
      (hl : policy.isLate (time + duration) = false)
      (hr : (script made).result = .error error)
      (hb : policy.isLate (time + duration + policy.backoff (made + 1)) = false)
      (runs : Runs policy script (left + 1) (made + 1)
        (time + duration + policy.backoff (made + 1)) rest) :
      Runs policy script (left + 2) made time
        { rest with starts := time :: rest.starts, backoffs := (made + 1) :: rest.backoffs }

theorem runs_runFrom (policy : RetryPolicy) (script : Nat → Attempt ε α) (left made time : Nat) :
    Runs policy script left made time (policy.runFrom script left made time) := by
  induction left generalizing made time with
  | zero => exact .spent made time
  | succ left ih =>
      cases hd : (script made).duration with
      | none =>
          cases ht : policy.timeout with
          | none =>
              simp only [runFrom, hd, ht]
              exact .stuck left made time hd ht
          | some limit =>
              simp only [runFrom, hd, ht]
              exact .abandoned left made time limit hd ht
      | some duration =>
          cases hl : policy.isLate (time + duration) with
          | true =>
              simp only [runFrom, hd, hl, if_true]
              exact .late left made time duration hd hl
          | false =>
              cases hr : (script made).result with
              | ok value =>
                  simp only [runFrom, hd, hl, hr, Bool.false_eq_true, if_false]
                  exact .succeeded left made time duration value hd hl hr
              | error error =>
                  cases left with
                  | zero =>
                      simp only [runFrom, hd, hl, hr, Bool.false_eq_true, if_false, if_true]
                      exact .exhausted made time duration error hd hl hr
                  | succ left =>
                      cases hb : policy.isLate (time + duration + policy.backoff (made + 1)) with
                      | true =>
                          rw [runFrom]
                          simp only [hd, hl, hr, hb, Bool.false_eq_true, if_false, if_true,
                            Nat.add_one_ne_zero]
                          exact .overslept left made time duration error hd hl hr hb
                      | false =>
                          rw [runFrom]
                          simp only [hd, hl, hr, hb, Bool.false_eq_true, if_false,
                            Nat.add_one_ne_zero]
                          exact .again left made time duration error _ hd hl hr hb (ih _ _)

def Yields (policy : RetryPolicy) (attempt : Attempt ε α) (time : Nat) (value : α) : Prop :=
  ∃ duration, attempt.duration = some duration ∧ attempt.result = .ok value ∧
    policy.isLate (time + duration) = false

/-- One of the attempts of a run, counted from number `made`, gives a value within the limit. -/
def Succeeds (policy : RetryPolicy) (script : Nat → Attempt ε α) (made : Nat) (starts : List Nat)
    (value : α) : Prop :=
  ∃ place start, starts[place]? = some start ∧
    policy.Yields (script (made + place)) start value

section Runs

variable {policy : RetryPolicy} {script : Nat → Attempt ε α} {left made time : Nat} {value : α}

theorem not_succeeds_nil : ¬ policy.Succeeds script made [] value := by
  rintro ⟨place, start, hs, -⟩
  cases hs

theorem succeeds_cons {starts : List Nat} :
    policy.Succeeds script made (time :: starts) value ↔
      policy.Yields (script made) time value ∨
        policy.Succeeds script (made + 1) starts value := by
  constructor
  · rintro ⟨place, start, hs, hy⟩
    cases place with
    | zero =>
        cases hs
        exact .inl hy
    | succ place =>
        rw [← Nat.add_assoc, Nat.add_right_comm] at hy
        exact .inr ⟨place, start, hs, hy⟩
  · rintro (hy | ⟨place, start, hs, hy⟩)
    · exact ⟨0, time, rfl, hy⟩
    · rw [Nat.add_right_comm, Nat.add_assoc] at hy
      exact ⟨place + 1, start, hs, hy⟩

theorem succeeds_singleton :
    policy.Succeeds script made [time] value ↔ policy.Yields (script made) time value := by
  rw [succeeds_cons, or_iff_left not_succeeds_nil]

theorem not_yields_of_unending (hd : (script made).duration = none) :
    ¬ policy.Yields (script made) time value := by
  rintro ⟨duration, he, -, -⟩
  cases hd.symm.trans he

theorem not_yields_of_late {duration : Nat} (hd : (script made).duration = some duration)
    (hl : policy.isLate (time + duration) = true) :
    ¬ policy.Yields (script made) time value := by
  rintro ⟨other, he, -, hin⟩
  cases hd.symm.trans he
  cases hl.symm.trans hin

theorem not_yields_of_error {error : ε} (hr : (script made).result = .error error) :
    ¬ policy.Yields (script made) time value := by
  rintro ⟨duration, -, he, -⟩
  cases hr.symm.trans he

theorem Runs.ok_iff {run : RetryRun ε α} (runs : Runs policy script left made time run) :
    run.result = .ok value ↔ policy.Succeeds script made run.starts value := by
  induction runs with
  | spent made time => exact iff_of_false nofun not_succeeds_nil
  | stuck left made time hd ht =>
      exact iff_of_false nofun (mt succeeds_singleton.1 (not_yields_of_unending hd))
  | abandoned left made time limit hd ht =>
      exact iff_of_false nofun (mt succeeds_singleton.1 (not_yields_of_unending hd))
  | late left made time duration hd hl =>
      exact iff_of_false nofun (mt succeeds_singleton.1 (not_yields_of_late hd hl))
  | succeeded left made time duration given hd hl hr =>
      rw [succeeds_singleton]
      constructor
      · intro he
        cases he
        exact ⟨duration, hd, hr, hl⟩
      · rintro ⟨-, -, he, -⟩
        cases hr.symm.trans he
        rfl
  | exhausted made time duration error hd hl hr =>
      exact iff_of_false nofun (mt succeeds_singleton.1 (not_yields_of_error hr))
  | overslept left made time duration error hd hl hr hb =>
      exact iff_of_false nofun (mt succeeds_singleton.1 (not_yields_of_error hr))
  | again left made time duration error rest hd hl hr hb runs ih =>
      rw [succeeds_cons, or_iff_right (not_yields_of_error hr)]
      exact ih

/-- What never ends has no limit, and an attempt that never ends or none at all. -/
theorem Runs.of_pending {run : RetryRun ε α} (runs : Runs policy script left made time run)
    (h : run.result = .pending) :
    left = 0 ∨ policy.timeout = none ∧
      ∃ place, place < left ∧ (script (made + place)).duration = none := by
  induction runs with
  | spent made time => exact .inl rfl
  | stuck left made time hd ht => exact .inr ⟨ht, 0, Nat.succ_pos left, hd⟩
  | again left made time duration error rest hd hl hr hb runs ih =>
      obtain hz | ⟨ht, place, hlt, hn⟩ := ih h
      · cases hz
      · rw [Nat.add_right_comm, Nat.add_assoc] at hn
        exact .inr ⟨ht, place + 1, Nat.succ_lt_succ hlt, hn⟩
  | _ => cases h

end Runs

theorem run_ok_iff (policy : RetryPolicy) (script : Nat → Attempt ε α) (value : α) :
    (policy.run script).result = .ok value ↔
      policy.Succeeds script 0 (policy.run script).starts value :=
  (runs_runFrom policy script policy.attempts 0 0).ok_iff

/-- A run ends if it has a limit or all its attempts end. -/
theorem run_ne_pending (policy : RetryPolicy) (script : Nat → Attempt ε α)
    (h : policy.timeout = none →
      ∀ number < policy.attempts, (script number).duration ≠ none) :
    (policy.run script).result ≠ .pending := by
  intro hp
  obtain hz | ⟨ht, place, hlt, hn⟩ := (runs_runFrom policy script policy.attempts 0 0).of_pending hp
  · have ha : 1 ≤ policy.attempts := Nat.le_max_left _ _
    omega
  · rw [Nat.zero_add] at hn
    exact h ht place hlt hn

end RetryPolicy

end BuildScheduler
