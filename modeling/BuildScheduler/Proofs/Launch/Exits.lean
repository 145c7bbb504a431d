import BuildScheduler.Proofs.Launch.Collaborators

/-!
# How a launch ends

A launch ends in one of eight ways. Each is an equation of the recorded launch below: the answer
given, the state left behind and the calls made on the way. In one of them there is no answer: the
calendar has no instant of expiry for the lock. `Exit` lists the eight, and `launch_exit` says that
there are no others.
-/

namespace BuildScheduler

namespace Collaborators

/-! ## What a launch asks for -/

section Asked

variable (parts : Collaborators σ) (event : BuildEvent) (state : σ)

def identified : BuildEvent := { event with id := some (parts.mint state).1 }

/-- The conditional put of a launch. -/
def tried : Result Bool × σ :=
  parts.putRecord (parts.identified event state) (parts.mint state).2

def putCall : Call :=
  let minted := (parts.mint state).2
  .put (parts.record (parts.identified event state) minted) (parts.now minted)
    (parts.tried event state).1

/-- The deferral of a launch whose put did not write. -/
def deferral : Result Unit × σ :=
  parts.defer (parts.identified event state) (parts.tried event state).2

def podFor (project : Project) : PodSpec :=
  parts.assemble (parts.identified event state) (parts.mint state).1 project
    (parts.tried event state).2

def submission (project : Project) : Result Unit × σ :=
  parts.create (parts.podFor event state project) (parts.tried event state).2

/-- The delete of a launch whose pod was not created. -/
def withdrawal (project : Project) : Result Unit × σ :=
  parts.delete event.lockName (parts.submission event state project).2

/-- The gate is open, and the project of the event is known and manages its ref. -/
structure Admits (project : Project) : Prop where
  isOpen : parts.isOpen state = true
  found : parts.project? event.projectKey state = some project
  managed : project.descriptor.isManaged event.ref = true

end Asked

/-! ## The eight ways -/

section Ways

variable {parts : Collaborators σ} {event : BuildEvent} {state : σ} {project : Project}
  (note : σ → Call → ε) (log : List ε)

theorem recorded_of_closed (ho : parts.isOpen state = false) :
    (parts.recorded note).site.launch event (state, log) =
      (some (.ok .queueClosed), state, log) :=
  Site.launch_of_closed _ ho

theorem recorded_of_unknown (ho : parts.isOpen state = true)
    (hp : parts.project? event.projectKey state = none) :
    (parts.recorded note).site.launch event (state, log) =
      (some (.error (.projectNotFound event.projectKey)), state, log) :=
  Site.launch_of_unknown _ ho hp

theorem recorded_of_unmanaged (ho : parts.isOpen state = true)
    (hp : parts.project? event.projectKey state = some project)
    (hm : project.descriptor.isManaged event.ref = false) :
    (parts.recorded note).site.launch event (state, log) =
      (some (.error (.refNotManaged event.projectKey event.ref)), state, log) :=
  Site.launch_of_unmanaged _ ho hp hm

theorem recorded_of_admits (ha : parts.Admits event state project) :
    (parts.recorded note).site.launch event (state, log) =
      (Launch.acquiring (parts.identified event state) (parts.mint state).1 project).run
        (parts.recorded note).site ((parts.mint state).2, log) :=
  Site.launch_of_admitted _ ha.isOpen ha.found ha.managed

/-- Without an instant of expiry nothing is called. -/
theorem recorded_of_not_fits (ha : parts.Admits event state project)
    (hf : ¬ parts.Fits (parts.mint state).2) :
    (parts.recorded note).site.launch event (state, log) =
      (none, (parts.mint state).2, log) := by
  rw [recorded_of_admits note log ha]
  exact Launch.run_acquiring_of_none (acquire_of_not_fits (parts.recorded note) _ hf)

/-- A put that did not write, refused or failed, is followed by the deferral. -/
theorem recorded_of_not_written (ha : parts.Admits event state project)
    (hf : parts.Fits (parts.mint state).2) (hw : (parts.tried event state).1 ≠ .ok true) :
    (parts.recorded note).site.launch event (state, log) =
      (Launch.deferring (parts.identified event state) (parts.mint state).1).run
        (parts.recorded note).site ((parts.tried event state).2,
          log ++ [note (parts.mint state).2 (parts.putCall event state)]) := by
  obtain ⟨refusal, hr⟩ := acquire_of_not_written (parts.recorded note)
    (parts.identified event state) ((fits_recorded parts note _ log).2 hf) hw
  rw [recorded_of_admits note log ha]
  exact Launch.run_acquiring_of_error hr

theorem recorded_of_written (ha : parts.Admits event state project)
    (hf : parts.Fits (parts.mint state).2) (hw : (parts.tried event state).1 = .ok true) :
    (parts.recorded note).site.launch event (state, log) =
      (Launch.creating (parts.identified event state) (parts.mint state).1 project).run
        (parts.recorded note).site ((parts.tried event state).2,
          log ++ [note (parts.mint state).2 (parts.putCall event state)]) := by
  have hr := acquire_of_written (parts.recorded note) (parts.identified event state)
    ((fits_recorded parts note _ log).2 hf) hw
  rw [recorded_of_admits note log ha]
  exact Launch.run_acquiring_of_ok hr

theorem recorded_of_deferred (ha : parts.Admits event state project)
    (hf : parts.Fits (parts.mint state).2) (hw : (parts.tried event state).1 ≠ .ok true)
    (hd : (parts.deferral event state).1 = .ok ()) :
    (parts.recorded note).site.launch event (state, log) =
      (some (.ok (.deferred event.lockName)), (parts.deferral event state).2,
        log ++ [note (parts.mint state).2 (parts.putCall event state)] ++
          [note (parts.tried event state).2 (.defer (parts.identified event state) (.ok ()))]) := by
  have hs : parts.defer (parts.identified event state) (parts.tried event state).2 =
      (.ok (), (parts.deferral event state).2) := Prod.ext hd rfl
  rw [recorded_of_not_written note log ha hf hw]
  exact Launch.run_deferring_of_ok (logged_eq hs _)

theorem recorded_of_undeferred {error : Error} (ha : parts.Admits event state project)
    (hf : parts.Fits (parts.mint state).2) (hw : (parts.tried event state).1 ≠ .ok true)
    (hd : (parts.deferral event state).1 = .error error) :
    (parts.recorded note).site.launch event (state, log) =
      (some (.ok (.failed (parts.mint state).1 error)), (parts.deferral event state).2,
        log ++ [note (parts.mint state).2 (parts.putCall event state)] ++
          [note (parts.tried event state).2
            (.defer (parts.identified event state) (.error error))]) := by
  have hs : parts.defer (parts.identified event state) (parts.tried event state).2 =
      (.error error, (parts.deferral event state).2) := Prod.ext hd rfl
  rw [recorded_of_not_written note log ha hf hw]
  exact Launch.run_deferring_of_error (logged_eq hs _)

theorem recorded_of_launched (ha : parts.Admits event state project)
    (hf : parts.Fits (parts.mint state).2) (hw : (parts.tried event state).1 = .ok true)
    (hc : (parts.submission event state project).1 = .ok ()) :
    (parts.recorded note).site.launch event (state, log) =
      (some (.ok (.launched (parts.mint state).1)), (parts.submission event state project).2,
        log ++ [note (parts.mint state).2 (parts.putCall event state)] ++
          [note (parts.tried event state).2
            (.create (parts.podFor event state project) (.ok ()))]) := by
  have hs : parts.create (parts.podFor event state project) (parts.tried event state).2 =
      (.ok (), (parts.submission event state project).2) := Prod.ext hc rfl
  rw [recorded_of_written note log ha hf hw]
  exact Launch.run_creating_of_ok (logged_eq hs _)

theorem recorded_of_uncreated {error : Error} (ha : parts.Admits event state project)
    (hf : parts.Fits (parts.mint state).2) (hw : (parts.tried event state).1 = .ok true)
    (hc : (parts.submission event state project).1 = .error error) :
    (parts.recorded note).site.launch event (state, log) =
      (some (.ok (.failed (parts.mint state).1 error.asPodCreation)),
        (parts.withdrawal event state project).2,
        log ++ [note (parts.mint state).2 (parts.putCall event state)] ++
          [note (parts.tried event state).2
            (.create (parts.podFor event state project) (.error error))] ++
          [note (parts.submission event state project).2
            (.delete event.lockName (parts.withdrawal event state project).1)]) := by
  have hs : parts.create (parts.podFor event state project) (parts.tried event state).2 =
      (.error error, (parts.submission event state project).2) := Prod.ext hc rfl
  let written := log ++ [note (parts.mint state).2 (parts.putCall event state)]
  have hr : (parts.recorded note).site.create ((parts.recorded note).site.assemble
      (parts.identified event state) (parts.mint state).1 project
      ((parts.tried event state).2, written)) ((parts.tried event state).2, written) = _ :=
    logged_eq hs written
  rw [recorded_of_written note log ha hf hw]
  exact Launch.run_creating_of_error hr

end Ways

inductive Exit (parts : Collaborators σ) (event : BuildEvent) (state : σ) :
    Option (Result LaunchOutcome) → σ → List Call → Prop where
  | closed (ho : parts.isOpen state = false) :
      Exit parts event state (some (.ok .queueClosed)) state []
  | unknown (ho : parts.isOpen state = true) (hp : parts.project? event.projectKey state = none) :
      Exit parts event state (some (.error (.projectNotFound event.projectKey))) state []
  | unmanaged (project : Project) (ho : parts.isOpen state = true)
      (hp : parts.project? event.projectKey state = some project)
      (hm : project.descriptor.isManaged event.ref = false) :
      Exit parts event state (some (.error (.refNotManaged event.projectKey event.ref))) state []
  | panicked (project : Project) (ha : parts.Admits event state project)
      (hf : ¬ parts.Fits (parts.mint state).2) :
      Exit parts event state none (parts.mint state).2 []
  | deferred (project : Project) (ha : parts.Admits event state project)
      (hf : parts.Fits (parts.mint state).2) (hw : (parts.tried event state).1 ≠ .ok true)
      (hd : (parts.deferral event state).1 = .ok ()) :
      Exit parts event state (some (.ok (.deferred event.lockName)))
        (parts.deferral event state).2
        [parts.putCall event state, .defer (parts.identified event state) (.ok ())]
  | undeferred (project : Project) (error : Error) (ha : parts.Admits event state project)
      (hf : parts.Fits (parts.mint state).2) (hw : (parts.tried event state).1 ≠ .ok true)
      (hd : (parts.deferral event state).1 = .error error) :
      Exit parts event state (some (.ok (.failed (parts.mint state).1 error)))
        (parts.deferral event state).2
        [parts.putCall event state, .defer (parts.identified event state) (.error error)]
  | launched (project : Project) (ha : parts.Admits event state project)
      (hf : parts.Fits (parts.mint state).2) (hw : (parts.tried event state).1 = .ok true)
      (hc : (parts.submission event state project).1 = .ok ()) :
      Exit parts event state (some (.ok (.launched (parts.mint state).1)))
        (parts.submission event state project).2
        [parts.putCall event state, .create (parts.podFor event state project) (.ok ())]
  | uncreated (project : Project) (error : Error) (ha : parts.Admits event state project)
      (hf : parts.Fits (parts.mint state).2) (hw : (parts.tried event state).1 = .ok true)
      (hc : (parts.submission event state project).1 = .error error) :
      Exit parts event state (some (.ok (.failed (parts.mint state).1 error.asPodCreation)))
        (parts.withdrawal event state project).2
        [parts.putCall event state, .create (parts.podFor event state project) (.error error),
          .delete event.lockName (parts.withdrawal event state project).1]

/-- The result of a launch, unless it panics, and the calls that it makes, in order. -/
def transcript (parts : Collaborators σ) (event : BuildEvent) (state : σ) :
    Option (Result LaunchOutcome) × List Call :=
  let run := (parts.recorded fun _ call => call).site.launch event (state, [])
  (run.1, run.2.2)

/-- The recorded launch as the three parts of an exit. -/
theorem exit_recorded (parts : Collaborators σ) (event : BuildEvent) (state : σ) :
    let run := (parts.recorded fun _ call => call).site.launch event (state, [])
    Exit parts event state run.1 run.2.1 run.2.2 := by
  intro run
  cases ho : parts.isOpen state with
  | false =>
      have hr : run = _ := recorded_of_closed _ [] ho
      rw [hr]
      exact .closed ho
  | true =>
      cases hp : parts.project? event.projectKey state with
      | none =>
          have hr : run = _ := recorded_of_unknown _ [] ho hp
          rw [hr]
          exact .unknown ho hp
      | some project =>
          cases hm : project.descriptor.isManaged event.ref with
          | false =>
              have hr : run = _ := recorded_of_unmanaged _ [] ho hp hm
              rw [hr]
              exact .unmanaged project ho hp hm
          | true =>
              have ha : parts.Admits event state project := ⟨ho, hp, hm⟩
              by_cases hf : parts.Fits (parts.mint state).2
              · by_cases hw : (parts.tried event state).1 = .ok true
                · cases hc : (parts.submission event state project).1 with
                  | ok value =>
                      have hr : run = _ := recorded_of_launched _ [] ha hf hw hc
                      rw [hr]
                      exact .launched project ha hf hw hc
                  | error error =>
                      have hr : run = _ := recorded_of_uncreated _ [] ha hf hw hc
                      rw [hr]
                      exact .uncreated project error ha hf hw hc
                · cases hd : (parts.deferral event state).1 with
                  | ok value =>
                      have hr : run = _ := recorded_of_deferred _ [] ha hf hw hd
                      rw [hr]
                      exact .deferred project ha hf hw hd
                  | error error =>
                      have hr : run = _ := recorded_of_undeferred _ [] ha hf hw hd
                      rw [hr]
                      exact .undeferred project error ha hf hw hd
              · have hr : run = _ := recorded_of_not_fits _ [] ha hf
                rw [hr]
                exact .panicked project ha hf

/-- Every launch ends in one of the eight ways. -/
theorem launch_exit (parts : Collaborators σ) (event : BuildEvent) (state : σ) :
    Exit parts event state (parts.site.launch event state).1 (parts.site.launch event state).2
      (parts.transcript event state).2 := by
  obtain ⟨hr, hs⟩ := run_recorded parts (fun _ call => call) (.requested event) state []
  have hx := exit_recorded parts event state
  simp only [Site.launch] at hx ⊢
  rwa [hr, hs] at hx

end Collaborators

end BuildScheduler
