import BuildScheduler.Lock
import BuildScheduler.PodTemplate

/-!
# Launching one build

A launch goes through phases, and each step makes at most one call to what the launch works
with. So several launches can be interleaved step by step, and the calls of one can be listed.
Every launch is over within four steps: it has a result, or it has panicked over its lock.
-/

namespace BuildScheduler

/-- What came of a launch that was admitted, or met a closed queue. -/
inductive LaunchOutcome where
  | launched (id : BuildId)
  | deferred (lockName : String)
  | queueClosed
  | failed (id : BuildId) (cause : Error)
deriving DecidableEq

def LaunchOutcome.isLaunched : LaunchOutcome → Bool
  | .launched _ => true
  | _ => false

/-- The error of a failed creation, said once. -/
def Error.asPodCreation : Error → Error
  | .podCreationFailed reason => .podCreationFailed reason
  | error => .podCreationFailed error.message

/-- What launches work with, over a state `σ`. -/
structure Site (σ : Type) where
  isOpen : σ → Bool
  project? : String → σ → Option Project
  mint : σ → BuildId × σ
  assemble : BuildEvent → BuildId → Project → σ → PodSpec
  /-- None if taking the lock panics. -/
  acquire : BuildEvent → σ → Option (Result LockRecord × σ)
  defer : BuildEvent → σ → Result Unit × σ
  create : PodSpec → σ → Result Unit × σ
  release : BuildEvent → σ → Result Unit × σ

/-- How far a launch is. -/
inductive Launch where
  | requested (event : BuildEvent)
  | acquiring (event : BuildEvent) (id : BuildId) (project : Project)
  | deferring (event : BuildEvent) (id : BuildId)
  | creating (event : BuildEvent) (id : BuildId) (project : Project)
  | releasing (event : BuildEvent) (id : BuildId) (cause : Error)
  | finished (result : Result LaunchOutcome)
  | panicked

namespace Launch

/-- The gate, the catalog and the pattern of the project, in this order; what passes gets an
identifier. -/
def accept (site : Site σ) (event : BuildEvent) (state : σ) : Launch × σ :=
  if !site.isOpen state then (.finished (.ok .queueClosed), state)
  else
    match site.project? event.projectKey state with
    | none => (.finished (.error (.projectNotFound event.projectKey)), state)
    | some project =>
        if !project.descriptor.isManaged event.ref then
          (.finished (.error (.refNotManaged event.projectKey event.ref)), state)
        else
          let (id, state) := site.mint state
          (.acquiring { event with id := some id } id project, state)

/-- One step of a launch. -/
def step (site : Site σ) : Launch → σ → Launch × σ
  | .requested event, state => accept site event state
  | .acquiring event id project, state =>
      match site.acquire event state with
      | some (.ok _, state) => (.creating event id project, state)
      | some (.error _, state) => (.deferring event id, state)
      | none => (.panicked, state)
  | .deferring event id, state =>
      match site.defer event state with
      | (.ok _, state) => (.finished (.ok (.deferred event.lockName)), state)
      | (.error error, state) => (.finished (.ok (.failed id error)), state)
  | .creating event id project, state =>
      match site.create (site.assemble event id project state) state with
      | (.ok _, state) => (.finished (.ok (.launched id)), state)
      | (.error error, state) => (.releasing event id error.asPodCreation, state)
  | .releasing event id cause, state =>
      let (_, state) := site.release event state
      (.finished (.ok (.failed id cause)), state)
  | .finished result, state => (.finished result, state)
  | .panicked, state => (.panicked, state)

/-- The most steps that a launch still takes. -/
def remaining : Launch → Nat
  | .requested _ => 4
  | .acquiring .. => 3
  | .creating .. => 2
  | .deferring .. => 1
  | .releasing .. => 1
  | .finished _ => 0
  | .panicked => 0

theorem remaining_step (site : Site σ) (launch : Launch) (state : σ) :
    (launch.step site state).1.remaining ≤ launch.remaining - 1 := by
  cases launch with
  | requested event =>
      simp only [step, accept]
      split
      · simp [remaining]
      · split
        · simp [remaining]
        · split <;> simp [remaining]
  | acquiring event id project => simp only [step]; split <;> simp [remaining]
  | deferring event id => simp only [step]; split <;> simp [remaining]
  | creating event id project => simp only [step]; split <;> simp [remaining]
  | releasing event id cause => simp [step, remaining]
  | finished result => simp [step, remaining]
  | panicked => simp [step, remaining]

/-- The result of a launch that has finished. -/
def result? : Launch → Option (Result LaunchOutcome)
  | .finished result => some result
  | _ => none

/-- How a launch ended that is over: with a result, or with none. -/
def ending? : Launch → Option (Option (Result LaunchOutcome))
  | .finished result => some (some result)
  | .panicked => some none
  | _ => none

theorem remaining_pos {launch : Launch} (h : launch.ending? = none) : 0 < launch.remaining := by
  cases launch with
  | finished result => cases h
  | panicked => cases h
  | _ => simp [remaining]

/-- Takes steps to the end. A launch that panics gives no result. -/
def run (site : Site σ) (launch : Launch) (state : σ) : Option (Result LaunchOutcome) × σ :=
  match _h : launch.ending? with
  | some ending => (ending, state)
  | none =>
      let next := launch.step site state
      run site next.1 next.2
termination_by launch.remaining
decreasing_by
  have hs := remaining_step site launch state
  have hp := remaining_pos _h
  omega

theorem run_of_ending {site : Site σ} {launch : Launch} {state : σ}
    {ending : Option (Result LaunchOutcome)} (h : launch.ending? = some ending) :
    launch.run site state = (ending, state) := by
  rw [run]
  split
  · rename_i other ho
    cases ho.symm.trans h
    rfl
  · rename_i ho
    cases ho.symm.trans h

theorem run_step {site : Site σ} {launch : Launch} {state : σ} (h : launch.ending? = none) :
    launch.run site state = (launch.step site state).1.run site (launch.step site state).2 := by
  rw [run]
  split
  · rename_i other ho
    cases ho.symm.trans h
  · rfl

end Launch

namespace Site

/-- Launches a build for an event; no result if the launch panics. -/
def launch (site : Site σ) (event : BuildEvent) (state : σ) :
    Option (Result LaunchOutcome) × σ :=
  (Launch.requested event).run site state

end Site

end BuildScheduler
