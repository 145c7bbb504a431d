import BuildScheduler.Proofs.Launch.Exits
import BuildScheduler.Proofs.Launch.Moves

/-!
# Launches while the stores answer

Stores in memory fail no call. A launch then goes one of five ways, by admission, by the calendar,
by its lock and by the answer of the cluster; each is written out with the world it leaves and the
calls it makes.
-/

namespace BuildScheduler

namespace World

/-- The gate is open, and the project of an event is known and manages its ref. -/
def admits (world : World κ) (event : BuildEvent) : Bool :=
  world.gate.isOpen &&
    (world.catalog.find? event.projectKey).any (·.descriptor.isManaged event.ref)

/-- The stores of a world answer every call, as stores in memory do. -/
structure Answering (world : World κ) : Prop where
  locks : world.lockOutages = {}
  queue : world.queueOutages = {}

/-! ## The stores -/

section Stores

variable {world : World κ} (h : world.Answering)

include h

theorem Answering.putLock_eq (record : LockRecord) (now : Instant) :
    world.putLock record now =
      (.ok (world.locks.put record now).1,
        { world with locks := (world.locks.put record now).2 }) := by
  obtain ⟨hl, hq⟩ := h
  cases world
  cases hl
  rfl

theorem Answering.deleteLock_eq (name : String) :
    world.deleteLock name = (.ok (), { world with locks := world.locks.delete name }) := by
  obtain ⟨hl, hq⟩ := h
  cases world
  cases hl
  rfl

theorem Answering.deferBuild_eq (event : BuildEvent) :
    world.deferBuild event =
      (.ok (), { world with queue := world.queue.defer event world.now }) := by
  obtain ⟨hl, hq⟩ := h
  cases world
  cases hq
  rfl

theorem Answering.clearDeferred_eq (name : String) :
    world.clearDeferred name = (.ok (), { world with queue := world.queue.remove name }) := by
  obtain ⟨hl, hq⟩ := h
  cases world
  cases hq
  rfl

theorem Answering.pollDeferred_eq :
    world.pollDeferred = (.ok world.queue.entries, { world with queue := .empty }) := by
  obtain ⟨hl, hq⟩ := h
  cases world
  cases hq
  rfl

end Stores

/-! ## What a launch asks for -/

section Asked

variable (event : BuildEvent) (project : Project) (world : World κ)

def identified : BuildEvent := { event with id := some world.mint.1 }

def lockRecord : LockRecord := event.lockRecord world.now world.ttl

/-- The world in which a launch has taken its lock. -/
def locked : World κ := { world.mint.2 with locks := world.locks.write (world.lockRecord event) }

/-- The world in which a launch has queued its event. -/
def requeued : World κ :=
  { world.mint.2 with queue := world.queue.defer (world.identified event) world.now }

def pod : PodSpec := world.template.buildPod (world.identified event) world.mint.1 project

def submission (cluster : Cluster κ) : Result Unit × World κ :=
  (world.locked event).createPod cluster (world.pod event project)

/-- The world in which a launch has given its lock back after a failed creation. -/
def withdrawn (cluster : Cluster κ) : World κ :=
  let after := (world.submission event project cluster).2
  { after with locks := after.locks.delete event.lockName }

@[simp] theorem name_lockRecord : (world.lockRecord event).name = event.lockName := rfl

end Asked

def putCall (world : World κ) (event : BuildEvent) (written : Bool) : Call :=
  .put (world.lockRecord event) world.now (.ok written)

inductive Course (cluster : Cluster κ) (event : BuildEvent) (world : World κ) :
    Option (Result LaunchOutcome) → World κ → List Call → Prop where
  | turnedAway (result : Result LaunchOutcome) (ha : world.admits event = false)
      (hr : ∀ outcome, result = .ok outcome → outcome.isLaunched = false) :
      Course cluster event world (some result) world []
  | panicked (ha : world.admits event = true) (hf : ¬ world.ttl.Fits world.now) :
      Course cluster event world none world.mint.2 []
  | deferred (ha : world.admits event = true) (hf : world.ttl.Fits world.now)
      (hh : world.locks.isHeld event.lockName world.now = true) :
      Course cluster event world (some (.ok (.deferred event.lockName))) (world.requeued event)
        [world.putCall event false, .defer (world.identified event) (.ok ())]
  | launched (project : Project) (ha : world.admits event = true)
      (hp : world.catalog.find? event.projectKey = some project) (hf : world.ttl.Fits world.now)
      (hh : world.locks.isHeld event.lockName world.now = false)
      (hc : (world.submission event project cluster).1 = .ok ()) :
      Course cluster event world (some (.ok (.launched world.mint.1)))
        (world.submission event project cluster).2
        [world.putCall event true, .create (world.pod event project) (.ok ())]
  | uncreated (project : Project) (error : Error) (ha : world.admits event = true)
      (hp : world.catalog.find? event.projectKey = some project) (hf : world.ttl.Fits world.now)
      (hh : world.locks.isHeld event.lockName world.now = false)
      (hc : (world.submission event project cluster).1 = .error error) :
      Course cluster event world (some (.ok (.failed world.mint.1 error.asPodCreation)))
        (world.withdrawn event project cluster)
        [world.putCall event true, .create (world.pod event project) (.error error),
          .delete event.lockName (.ok ())]

/-! ## Every launch goes one of these ways -/

section Courses

variable {cluster : Cluster κ} {event : BuildEvent} {world : World κ} {project : Project}

theorem admits_of_admits (ha : (collaborators cluster).Admits event world project) :
    world.admits event = true ∧ world.catalog.find? event.projectKey = some project := by
  have hf : world.catalog.find? event.projectKey = some project := ha.found
  have ho : world.gate.isOpen = true := ha.isOpen
  exact ⟨by simp [admits, ho, hf, ha.managed], hf⟩

theorem tried_of_held (h : world.Answering)
    (hh : world.locks.isHeld event.lockName world.now = true) :
    (collaborators cluster).tried event world = (.ok false, world.mint.2) := by
  have hm : world.mint.2.Answering := ⟨h.locks, h.queue⟩
  have hp : world.locks.put (world.lockRecord event) world.now = (false, world.locks) := by
    rw [LockStore.put, name_lockRecord, if_pos hh]
  have ht : (collaborators cluster).tried event world =
      world.mint.2.putLock (world.lockRecord event) world.now := rfl
  rw [ht, hm.putLock_eq]
  have hl : world.mint.2.locks = world.locks := rfl
  rw [hl, hp]
  rfl

theorem tried_of_free (h : world.Answering)
    (hh : world.locks.isHeld event.lockName world.now = false) :
    (collaborators cluster).tried event world = (.ok true, world.locked event) := by
  have hm : world.mint.2.Answering := ⟨h.locks, h.queue⟩
  have hp : world.locks.put (world.lockRecord event) world.now =
      (true, world.locks.write (world.lockRecord event)) := by
    rw [LockStore.put, name_lockRecord, hh]
    rfl
  have ht : (collaborators cluster).tried event world =
      world.mint.2.putLock (world.lockRecord event) world.now := rfl
  rw [ht, hm.putLock_eq]
  have hl : world.mint.2.locks = world.locks := rfl
  rw [hl, hp]
  rfl

theorem admits_eq_false_of_closed (ho : world.gate.isOpen = false) :
    world.admits event = false := by
  rw [admits, ho, Bool.false_and]

theorem admits_eq_false_of_unknown (hp : world.catalog.find? event.projectKey = none) :
    world.admits event = false := by
  rw [admits, hp, Option.any_none, Bool.and_false]

theorem admits_eq_false_of_unmanaged (hp : world.catalog.find? event.projectKey = some project)
    (hm : project.descriptor.isManaged event.ref = false) : world.admits event = false := by
  rw [admits, hp, Option.any_some, hm, Bool.and_false]

/-- Whether a put was written says whether the name was held. -/
theorem isHeld_of_tried (h : world.Answering) :
    ((collaborators cluster).tried event world).1 = .ok true ↔
      world.locks.isHeld event.lockName world.now = false := by
  cases hh : world.locks.isHeld event.lockName world.now with
  | true => simp [tried_of_held h hh]
  | false => simp [tried_of_free h hh]

theorem submission_of_free (h : world.Answering)
    (hh : world.locks.isHeld event.lockName world.now = false) :
    (collaborators cluster).submission event world project =
      world.submission event project cluster := by
  have hs : (collaborators cluster).submission event world project =
      ((collaborators cluster).tried event world).2.createPod cluster
        (((collaborators cluster).tried event world).2.template.buildPod
          (world.identified event) world.mint.1 project) := rfl
  rw [hs, tried_of_free h hh]
  rfl

theorem podFor_of_free (h : world.Answering)
    (hh : world.locks.isHeld event.lockName world.now = false) :
    (collaborators cluster).podFor event world project = world.pod event project := by
  rw [Collaborators.podFor, tried_of_free h hh]
  rfl

theorem withdrawal_of_free (h : world.Answering)
    (hh : world.locks.isHeld event.lockName world.now = false) :
    (collaborators cluster).withdrawal event world project =
      (.ok (), world.withdrawn event project cluster) := by
  have hs : (world.submission event project cluster).2.Answering := ⟨h.locks, h.queue⟩
  rw [Collaborators.withdrawal, submission_of_free h hh]
  exact hs.deleteLock_eq event.lockName

end Courses

theorem launch_course (cluster : Cluster κ) (event : BuildEvent) {world : World κ}
    (h : world.Answering) :
    Course cluster event world (world.launch cluster event).1 (world.launch cluster event).2
      ((collaborators cluster).transcript event world).2 := by
  have hx := (collaborators cluster).launch_exit event world
  rw [← launch_eq_collaborators] at hx
  generalize (world.launch cluster event).1 = result at hx ⊢
  generalize (world.launch cluster event).2 = after at hx ⊢
  generalize ((collaborators cluster).transcript event world).2 = calls at hx ⊢
  have hput : (collaborators cluster).putCall event world =
      .put (world.lockRecord event) world.now ((collaborators cluster).tried event world).1 := rfl
  cases hx with
  | closed ho =>
      exact .turnedAway _ (admits_eq_false_of_closed ho) fun outcome he => by cases he; rfl
  | unknown ho hp =>
      exact .turnedAway _ (admits_eq_false_of_unknown hp) fun outcome he => by cases he
  | unmanaged project ho hp hm =>
      exact .turnedAway _ (admits_eq_false_of_unmanaged hp hm) fun outcome he => by cases he
  | panicked project ha hf => exact .panicked (admits_of_admits ha).1 hf
  | deferred project ha hf hw hd =>
      rw [Ne, isHeld_of_tried h, Bool.not_eq_false] at hw
      have hq : ((collaborators cluster).deferral event world).2 = world.requeued event := by
        have hm : world.mint.2.Answering := ⟨h.locks, h.queue⟩
        rw [Collaborators.deferral, tried_of_held h hw]
        exact congrArg Prod.snd (hm.deferBuild_eq (world.identified event))
      rw [hq, hput, tried_of_held h hw]
      exact .deferred (admits_of_admits ha).1 hf hw
  | undeferred project error ha hf hw hd =>
      -- a queue in memory takes every event
      exfalso
      rw [Ne, isHeld_of_tried h, Bool.not_eq_false] at hw
      have hm : world.mint.2.Answering := ⟨h.locks, h.queue⟩
      rw [Collaborators.deferral, tried_of_held h hw] at hd
      have hok := congrArg Prod.fst (hm.deferBuild_eq (world.identified event))
      cases hok.symm.trans hd
  | launched project ha hf hw hc =>
      have hh := (isHeld_of_tried h).1 hw
      rw [submission_of_free h hh] at hc ⊢
      rw [hput, hw, podFor_of_free h hh]
      exact .launched project (admits_of_admits ha).1 (admits_of_admits ha).2 hf hh hc
  | uncreated project error ha hf hw hc =>
      have hh := (isHeld_of_tried h).1 hw
      rw [submission_of_free h hh] at hc
      rw [hput, hw, podFor_of_free h hh, withdrawal_of_free h hh]
      exact .uncreated project error (admits_of_admits ha).1 (admits_of_admits ha).2 hf hh hc

/-! ## What follows from the way of a launch -/

section Followed

variable {cluster : Cluster κ} {event : BuildEvent} {world after : World κ}
  {ending : Option (Result LaunchOutcome)} {calls : List Call}
  (course : Course cluster event world ending after calls)

include course

theorem Course.submits_iff :
    (∃ spec answer, Call.create spec answer ∈ calls) ↔
      world.admits event = true ∧ world.ttl.Fits world.now ∧
        world.locks.isHeld event.lockName world.now = false := by
  cases course with
  | turnedAway result ha => simp [ha]
  | panicked ha hf => simp [hf]
  | deferred ha hf hh => simp [hh, putCall]
  | launched project ha hp hf hh => simp [ha, hf, hh, putCall]
  | uncreated project error ha hp hf hh => simp [ha, hf, hh, putCall]

/-- A launch that finds its lock free goes by the answer of the cluster. -/
theorem Course.of_free {project : Project} (ha : world.admits event = true)
    (hp : world.catalog.find? event.projectKey = some project) (hf : world.ttl.Fits world.now)
    (hh : world.locks.isHeld event.lockName world.now = false) :
    ((world.submission event project cluster).1 = .ok () ∧
      ending = some (.ok (.launched world.mint.1)) ∧
      after = (world.submission event project cluster).2 ∧
      calls = [world.putCall event true, .create (world.pod event project) (.ok ())]) ∨
    ∃ error, (world.submission event project cluster).1 = .error error ∧
      ending = some (.ok (.failed world.mint.1 error.asPodCreation)) ∧
      after = world.withdrawn event project cluster ∧
      calls = [world.putCall event true, .create (world.pod event project) (.error error),
        .delete event.lockName (.ok ())] := by
  cases course with
  | turnedAway result hn => cases ha.symm.trans hn
  | panicked _ hn => exact absurd hf hn
  | deferred _ _ hl => cases hl.symm.trans hh
  | launched other _ ho _ _ hc =>
      cases hp.symm.trans ho
      exact .inl ⟨hc, rfl, rfl, rfl⟩
  | uncreated other error _ ho _ _ hc =>
      cases hp.symm.trans ho
      exact .inr ⟨error, hc, rfl, rfl, rfl⟩

end Followed

/-! ## What a launch leaves as it was -/

section Frame

variable {cluster : Cluster κ} {event : BuildEvent} {world after : World κ}
  {ending : Option (Result LaunchOutcome)} {calls : List Call}
  (course : Course cluster event world ending after calls)

include course

theorem Course.start_eq : after.start = world.start := by
  cases course with
  | _ => rfl

theorem Course.ttl_eq : after.ttl = world.ttl := by
  cases course with
  | _ => rfl

theorem Course.gate_eq : after.gate = world.gate := by
  cases course with
  | _ => rfl

theorem Course.catalog_eq : after.catalog = world.catalog := by
  cases course with
  | _ => rfl

theorem Course.answering (h : world.Answering) : after.Answering := by
  cases course with
  | _ => exact ⟨h.locks, h.queue⟩

theorem Course.admits_eq (other : BuildEvent) : after.admits other = world.admits other := by
  rw [admits, admits, course.gate_eq, course.catalog_eq]

/-- A launch leaves the records of other lock names. -/
theorem Course.get?_of_ne {name : String} (h : name ≠ event.lockName) :
    after.locks.get? name = world.locks.get? name := by
  have hw : (world.locked event).locks.get? name = world.locks.get? name := by
    rw [locked, LockStore.get?_write, name_lockRecord, if_neg h]
  cases course with
  | turnedAway => rfl
  | panicked => rfl
  | deferred => rfl
  | launched => exact hw
  | uncreated =>
      rw [← hw]
      exact (LockStore.get?_delete _ _ _).trans (if_neg h)

end Frame

end World

end BuildScheduler
