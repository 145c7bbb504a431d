import BuildScheduler.Error
import BuildScheduler.Time.Span

/-!
# Retrying

A policy runs attempts one after another until one succeeds, the attempts run out, or the time
is over. Before each further attempt it backs off for a while that depends on how many attempts
were made. What ends exactly at the limit has ended in time. Times are nanoseconds from the
start of the run.
-/

namespace BuildScheduler

/-- Two to the number of attempts in milliseconds, up to the sixteenth power. -/
def exponentialBackoff (attempts : Nat) : Nat := Nat.pow 2 (min attempts 16) * nanosPerMilli

structure RetryPolicy where
  timeout : Option Nat := none
  maxAttempts : Nat := 3
  backoff : Nat → Nat := exponentialBackoff

/-- One attempt: its result, and how long it takes; none when it never ends. -/
structure Attempt (ε α : Type) where
  duration : Option Nat
  result : Except ε α

/-- How a run ends: with a value, with the error of the last attempt, or at the time limit. -/
inductive RetryResult (ε α : Type) where
  | ok (value : α)
  | exhausted (error : ε)
  | timeout
  /-- Nothing ends the run. -/
  | pending

structure RetryRun (ε α : Type) where
  result : RetryResult ε α
  /-- When each attempt began. -/
  starts : List Nat
  /-- The numbers of attempts the back-off was asked for. -/
  backoffs : List Nat
  elapsed : Nat

namespace RetryPolicy

/-- At least one attempt is made. -/
def attempts (policy : RetryPolicy) : Nat := max 1 policy.maxAttempts

/-- Whether a time is after the limit. -/
def isLate (policy : RetryPolicy) (time : Nat) : Bool := policy.timeout.any (· < time)

/-- The run at its limit. -/
def timedOut (policy : RetryPolicy) (starts backoffs : List Nat) : RetryRun ε α :=
  { result := .timeout, starts, backoffs, elapsed := policy.timeout.getD 0 }

/-- Runs the attempts from number `made` on, at a time; `left` of them are left. -/
def runFrom (policy : RetryPolicy) (script : Nat → Attempt ε α) :
    Nat → Nat → Nat → RetryRun ε α
  | 0, _, time => { result := .pending, starts := [], backoffs := [], elapsed := time }
  | left + 1, made, time =>
      let attempt := script made
      match attempt.duration with
      | none =>
          match policy.timeout with
          | some _ => policy.timedOut [time] []
          | none => { result := .pending, starts := [time], backoffs := [], elapsed := time }
      | some duration =>
          let time' := time + duration
          if policy.isLate time' then policy.timedOut [time] []
          else
            match attempt.result with
            | .ok value => { result := .ok value, starts := [time], backoffs := [], elapsed := time' }
            | .error error =>
                if left = 0 then
                  { result := .exhausted error, starts := [time], backoffs := [], elapsed := time' }
                else
                  let made := made + 1
                  let again := time' + policy.backoff made
                  if policy.isLate again then policy.timedOut [time] [made]
                  else
                    let rest := runFrom policy script left made again
                    { rest with starts := time :: rest.starts, backoffs := made :: rest.backoffs }

/-- Runs a script of attempts. -/
def run (policy : RetryPolicy) (script : Nat → Attempt ε α) : RetryRun ε α :=
  policy.runFrom script policy.attempts 0 0

end RetryPolicy

/-- The message of a run at its limit. -/
def retryTimedOut : String := "retry timed out"

namespace RetryResult

/-- The result as one of a call. A run that nothing ends has none, and what is said of calls over
a cluster leaves such runs out; here it gets the error of the limit. -/
def toResult : RetryResult Error α → Result α
  | .ok value => .ok value
  | .exhausted error => .error error
  | .timeout => .error (.timeout retryTimedOut)
  | .pending => .error (.timeout retryTimedOut)

end RetryResult

end BuildScheduler
