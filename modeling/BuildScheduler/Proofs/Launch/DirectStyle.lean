import BuildScheduler.Launch

/-!
# A launch from its request to its result

Every step of a launch as an equation of its run: the answer of the call decides what is run
next. From these a whole launch is put together without a look at its phases.
-/

namespace BuildScheduler

namespace Launch

variable {site : Site σ} {event : BuildEvent} {id : BuildId} {project : Project} {cause : Error}
  {state after : σ}

@[simp] theorem run_finished (site : Site σ) (result : Result LaunchOutcome) (state : σ) :
    (finished result).run site state = (some result, state) := run_of_ending rfl

@[simp] theorem run_panicked (site : Site σ) (state : σ) :
    panicked.run site state = (none, state) := run_of_ending rfl

theorem run_acquiring_of_none (h : site.acquire event state = none) :
    (acquiring event id project).run site state = (none, state) := by
  rw [run_step rfl]
  simp only [step, h, run_panicked]

theorem run_acquiring_of_ok {record : LockRecord}
    (h : site.acquire event state = some (.ok record, after)) :
    (acquiring event id project).run site state =
      (creating event id project).run site after := by
  rw [run_step rfl]
  simp only [step, h]

theorem run_acquiring_of_error {error : Error}
    (h : site.acquire event state = some (.error error, after)) :
    (acquiring event id project).run site state = (deferring event id).run site after := by
  rw [run_step rfl]
  simp only [step, h]

theorem run_deferring_of_ok (h : site.defer event state = (.ok (), after)) :
    (deferring event id).run site state = (some (.ok (.deferred event.lockName)), after) := by
  rw [run_step rfl]
  simp only [step, h, run_finished]

theorem run_deferring_of_error {error : Error}
    (h : site.defer event state = (.error error, after)) :
    (deferring event id).run site state = (some (.ok (.failed id error)), after) := by
  rw [run_step rfl]
  simp only [step, h, run_finished]

theorem run_creating_of_ok
    (h : site.create (site.assemble event id project state) state = (.ok (), after)) :
    (creating event id project).run site state = (some (.ok (.launched id)), after) := by
  rw [run_step rfl]
  simp only [step, h, run_finished]

theorem run_releasing :
    (releasing event id cause).run site state =
      (some (.ok (.failed id cause)), (site.release event state).2) := by
  rw [run_step rfl]
  exact run_finished site _ _

theorem run_creating_of_error {error : Error}
    (h : site.create (site.assemble event id project state) state = (.error error, after)) :
    (creating event id project).run site state =
      (some (.ok (.failed id error.asPodCreation)), (site.release event after).2) := by
  rw [run_step rfl]
  simp only [step, h, run_releasing]

/-- What every step keeps, a run keeps. -/
theorem run_keeps {kept : σ → Prop} (hs : ∀ launch state, kept state →
    kept (Launch.step site launch state).2) (launch : Launch) (state : σ) (h : kept state) :
    kept (launch.run site state).2 := by
  induction hm : launch.remaining using Nat.strongRecOn generalizing launch state with
  | _ left ih =>
      cases hr : launch.ending? with
      | some ending =>
          rw [run_of_ending hr]
          exact h
      | none =>
          have hl := remaining_step site launch state
          have hp := remaining_pos hr
          rw [run_step hr]
          exact ih _ (by omega) _ _ (hs launch state h) rfl

end Launch

namespace Site

variable (site : Site σ) {event : BuildEvent} {state : σ}

theorem launch_of_closed (h : site.isOpen state = false) :
    site.launch event state = (some (.ok .queueClosed), state) := by
  rw [launch, Launch.run_step rfl]
  simp [Launch.step, Launch.accept, h]

theorem launch_of_unknown (ho : site.isOpen state = true)
    (hp : site.project? event.projectKey state = none) :
    site.launch event state = (some (.error (.projectNotFound event.projectKey)), state) := by
  rw [launch, Launch.run_step rfl]
  simp [Launch.step, Launch.accept, ho, hp]

theorem launch_of_unmanaged {project : Project} (ho : site.isOpen state = true)
    (hp : site.project? event.projectKey state = some project)
    (hm : project.descriptor.isManaged event.ref = false) :
    site.launch event state =
      (some (.error (.refNotManaged event.projectKey event.ref)), state) := by
  rw [launch, Launch.run_step rfl]
  simp [Launch.step, Launch.accept, ho, hp, hm]

/-- What passes the gate, the catalog and the pattern goes on to its lock with a new
identifier. -/
theorem launch_of_admitted {project : Project} (ho : site.isOpen state = true)
    (hp : site.project? event.projectKey state = some project)
    (hm : project.descriptor.isManaged event.ref = true) :
    site.launch event state =
      (Launch.acquiring { event with id := some (site.mint state).1 } (site.mint state).1
        project).run site (site.mint state).2 := by
  rw [launch, Launch.run_step rfl]
  simp [Launch.step, Launch.accept, ho, hp, hm]

end Site

end BuildScheduler
