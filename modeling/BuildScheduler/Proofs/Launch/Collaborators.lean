import BuildScheduler.Orchestrator
import BuildScheduler.Proofs.Launch.DirectStyle

/-!
# The calls of a launch

A launch works with a lock store, a store of deferred builds and a cluster, and each of these may
answer anything. `Collaborators.recorded` keeps a note of every call with its answer; recording
does not change what a launch does. A world is one such set of collaborators.
-/

namespace BuildScheduler

/-- What launches work with, down to single calls, over a state `σ`. -/
structure Collaborators (σ : Type) where
  isOpen : σ → Bool
  project? : String → σ → Option Project
  mint : σ → BuildId × σ
  assemble : BuildEvent → BuildId → Project → σ → PodSpec
  now : σ → Instant
  ttl : σ → Span
  put : LockRecord → Instant → σ → Result Bool × σ
  delete : String → σ → Result Unit × σ
  defer : BuildEvent → σ → Result Unit × σ
  create : PodSpec → σ → Result Unit × σ

inductive Call where
  | put (record : LockRecord) (now : Instant) (answer : Result Bool)
  | delete (name : String) (answer : Result Unit)
  | defer (event : BuildEvent) (answer : Result Unit)
  | create (spec : PodSpec) (answer : Result Unit)

namespace Collaborators

def record (parts : Collaborators σ) (event : BuildEvent) (state : σ) : LockRecord :=
  event.lockRecord (parts.now state) (parts.ttl state)

def putRecord (parts : Collaborators σ) (event : BuildEvent) (state : σ) : Result Bool × σ :=
  parts.put (parts.record event state) (parts.now state) state

def acquire (parts : Collaborators σ) (event : BuildEvent) (state : σ) :
    Option (Result LockRecord × σ) :=
  acquireLock parts.put event (parts.now state) (parts.ttl state) state

/-- The calendar has the instant at which a lock taken now expires. -/
def Fits (parts : Collaborators σ) (state : σ) : Prop := (parts.ttl state).Fits (parts.now state)

instance (parts : Collaborators σ) (state : σ) : Decidable (parts.Fits state) := by
  unfold Fits; infer_instance

def site (parts : Collaborators σ) : Site σ where
  isOpen := parts.isOpen
  project? := parts.project?
  mint := parts.mint
  assemble := parts.assemble
  acquire := parts.acquire
  defer := parts.defer
  create := parts.create
  release event := parts.delete event.lockName

/-- Makes a call and adds a note of it. -/
def logged (note : σ → Call → ε) (call : Result α → Call) (act : σ → Result α × σ)
    (state : σ × List ε) : Result α × σ × List ε :=
  let (answer, after) := act state.1
  (answer, after, state.2 ++ [note state.1 (call answer)])

def recorded (parts : Collaborators σ) (note : σ → Call → ε) : Collaborators (σ × List ε) where
  isOpen state := parts.isOpen state.1
  project? key state := parts.project? key state.1
  mint state := ((parts.mint state.1).1, (parts.mint state.1).2, state.2)
  assemble event id project state := parts.assemble event id project state.1
  now state := parts.now state.1
  ttl state := parts.ttl state.1
  put record now := logged note (.put record now) (parts.put record now)
  delete name := logged note (.delete name) (parts.delete name)
  defer event := logged note (.defer event) (parts.defer event)
  create spec := logged note (.create spec) (parts.create spec)

/-! ## Acquiring by the answer of the put -/

section Acquiring

variable (parts : Collaborators σ) (event : BuildEvent) {state : σ}

theorem acquire_of_not_fits (hf : ¬ parts.Fits state) : parts.acquire event state = none :=
  if_neg hf

theorem acquire_of_fits (hf : parts.Fits state) :
    parts.acquire event state =
      some ((parts.record event state).taken (parts.putRecord event state).1,
        (parts.putRecord event state).2) := if_pos hf

theorem acquire_of_written (hf : parts.Fits state)
    (h : (parts.putRecord event state).1 = .ok true) :
    parts.acquire event state =
      some (.ok (parts.record event state), (parts.putRecord event state).2) := by
  rw [acquire_of_fits parts event hf, h]
  rfl

/-- To a launch a refused put and a failed one are alike. -/
theorem acquire_of_not_written (hf : parts.Fits state)
    (h : (parts.putRecord event state).1 ≠ .ok true) :
    ∃ error, parts.acquire event state = some (.error error, (parts.putRecord event state).2) := by
  rw [acquire_of_fits parts event hf]
  cases hp : (parts.putRecord event state).1 with
  | error error => exact ⟨error, rfl⟩
  | ok written =>
      cases written with
      | false => exact ⟨_, rfl⟩
      | true => exact (h hp).elim

end Acquiring

end Collaborators

/-- The calls that the next step of a launch makes, with their answers: one at most. -/
def Launch.calls (parts : Collaborators σ) : Launch → σ → List Call
  | .requested _, _ => []
  | .acquiring event _ _, state =>
      if parts.Fits state then
        [.put (parts.record event state) (parts.now state) (parts.putRecord event state).1]
      else []
  | .deferring event _, state => [.defer event (parts.defer event state).1]
  | .creating event id project, state =>
      let spec := parts.assemble event id project state
      [.create spec (parts.create spec state).1]
  | .releasing event _ _, state =>
      [.delete event.lockName (parts.delete event.lockName state).1]
  | .finished _, _ => []
  | .panicked, _ => []

namespace Collaborators

/-! ## Recording -/

section Recording

variable (parts : Collaborators σ) (note : σ → Call → ε)

theorem logged_eq {note : σ → Call → ε} {call : Result α → Call} {act : σ → Result α × σ}
    {state : σ} {answer : Result α} {after : σ} (h : act state = (answer, after)) (log : List ε) :
    logged note call act (state, log) = (answer, after, log ++ [note state (call answer)]) := by
  simp [logged, h]

theorem fits_recorded (state : σ) (log : List ε) :
    (parts.recorded note).Fits (state, log) ↔ parts.Fits state := Iff.rfl

theorem acquire_recorded (event : BuildEvent) {state : σ} (hf : parts.Fits state) (log : List ε) :
    (parts.recorded note).acquire event (state, log) =
      some ((parts.record event state).taken (parts.putRecord event state).1,
        (parts.putRecord event state).2,
        log ++ [note state (.put (parts.record event state) (parts.now state)
          (parts.putRecord event state).1)]) := by
  rw [acquire_of_fits _ event ((fits_recorded parts note state log).2 hf)]
  rfl

/-- Recording changes nothing but the record, which gets the calls of the step. -/
theorem step_recorded (launch : Launch) (state : σ) (log : List ε) :
    launch.step (parts.recorded note).site (state, log) =
      ((launch.step parts.site state).1, (launch.step parts.site state).2,
        log ++ (launch.calls parts state).map (note state)) := by
  cases launch with
  | requested event =>
      simp only [Launch.calls, List.map_nil, List.append_nil]
      change Launch.accept (parts.recorded note).site event (state, log) =
        ((Launch.accept parts.site event state).1, (Launch.accept parts.site event state).2, log)
      cases ho : parts.isOpen state with
      | false => simp [Launch.accept, site, recorded, ho]
      | true =>
          cases hp : parts.project? event.projectKey state with
          | none => simp [Launch.accept, site, recorded, ho, hp]
          | some project =>
              cases hm : project.descriptor.isManaged event.ref with
              | false => simp [Launch.accept, site, recorded, ho, hp, hm]
              | true => simp [Launch.accept, site, recorded, ho, hp, hm]
  | acquiring event id project =>
      by_cases hf : parts.Fits state
      · have ha := acquire_of_fits parts event hf
        have hr := acquire_recorded parts note event hf log
        cases ht : (parts.record event state).taken (parts.putRecord event state).1 with
        | ok record => simp [Launch.step, Launch.calls, site, ha, hr, ht, hf]
        | error error => simp [Launch.step, Launch.calls, site, ha, hr, ht, hf]
      · have ha := acquire_of_not_fits parts event hf
        have hr : (parts.recorded note).acquire event (state, log) = none :=
          acquire_of_not_fits _ event hf
        simp [Launch.step, Launch.calls, site, ha, hr, hf]
  | deferring event id =>
      rcases hd : parts.defer event state with ⟨answer, after⟩
      have hr : (parts.recorded note).defer event (state, log) = _ := logged_eq hd log
      cases answer with
      | ok value => simp [Launch.step, Launch.calls, site, hd, hr]
      | error error => simp [Launch.step, Launch.calls, site, hd, hr]
  | creating event id project =>
      rcases hc : parts.create (parts.assemble event id project state) state with ⟨answer, after⟩
      have hr : (parts.recorded note).create (parts.assemble event id project state)
          (state, log) = _ := logged_eq hc log
      have hs : (parts.recorded note).assemble event id project (state, log) =
          parts.assemble event id project state := rfl
      cases answer with
      | ok value => simp [Launch.step, Launch.calls, site, hc, hs, hr]
      | error error => simp [Launch.step, Launch.calls, site, hc, hs, hr]
  | releasing event id cause => rfl
  | finished result => simp [Launch.step, Launch.calls]
  | panicked => simp [Launch.step, Launch.calls]

/-- A launch comes to the same result and state whether it is recorded or not. -/
theorem run_recorded (launch : Launch) (state : σ) (log : List ε) :
    (launch.run (parts.recorded note).site (state, log)).1 = (launch.run parts.site state).1 ∧
      (launch.run (parts.recorded note).site (state, log)).2.1 =
        (launch.run parts.site state).2 := by
  induction h : launch.remaining using Nat.strongRecOn generalizing launch state log with
  | _ left ih =>
      cases hr : launch.ending? with
      | some ending => simp only [Launch.run_of_ending hr]; trivial
      | none =>
          have hl := Launch.remaining_step parts.site launch state
          have hp := Launch.remaining_pos hr
          rw [Launch.run_step hr, Launch.run_step hr, step_recorded]
          exact ih _ (by dsimp only; omega) _ _ _ rfl

/-- Two records of one launch differ as their notes do. -/
theorem log_recorded (change : ε → ε') (launch : Launch) (state : σ) (log : List ε) :
    (launch.run (parts.recorded fun met call => change (note met call)).site
      (state, log.map change)).2.2 =
      (launch.run (parts.recorded note).site (state, log)).2.2.map change := by
  induction h : launch.remaining using Nat.strongRecOn generalizing launch state log with
  | _ left ih =>
      cases hr : launch.ending? with
      | some ending => simp only [Launch.run_of_ending hr]
      | none =>
          have hl := Launch.remaining_step parts.site launch state
          have hp := Launch.remaining_pos hr
          have hlog : log.map change ++
              (launch.calls parts state).map (fun call => change (note state call)) =
                (log ++ (launch.calls parts state).map (note state)).map change := by
            rw [List.map_append, List.map_map]
            rfl
          rw [Launch.run_step hr, Launch.run_step hr, step_recorded, step_recorded, hlog]
          exact ih _ (by dsimp only; omega) _ _ _ rfl

end Recording

end Collaborators

/-! ## The collaborators of a world -/

namespace World

def collaborators (cluster : Cluster κ) : Collaborators (World κ) where
  isOpen world := world.gate.isOpen
  project? key world := world.catalog.find? key
  mint := mint
  assemble event id project world := world.template.buildPod event id project
  now := now
  ttl world := world.ttl
  put := putLock
  delete := deleteLock
  defer := deferBuild
  create := createPod cluster

theorem site_collaborators (cluster : Cluster κ) :
    (collaborators cluster).site = site cluster := rfl

end World

end BuildScheduler
