import BuildScheduler.Proofs.Launch.Collaborators

/-!
# The moves of a launch

One step of a launch in a world is one of the moves below: what the launch goes on to, what the
step writes in the world, and the call it makes. What a move does not write it leaves as it was,
so a step never touches the gate, the catalog, the template or the time to live.
-/

namespace BuildScheduler

namespace Launch

inductive Move : Launch → World κ → Launch → World κ → List Call → Prop where
  | closed (event : BuildEvent) (world : World κ) (ho : world.gate.isOpen = false) :
      Move (.requested event) world (.finished (.ok .queueClosed)) world []
  | unknown (event : BuildEvent) (world : World κ) (ho : world.gate.isOpen = true)
      (hp : world.catalog.find? event.projectKey = none) :
      Move (.requested event) world
        (.finished (.error (.projectNotFound event.projectKey))) world []
  | unmanaged (event : BuildEvent) (project : Project) (world : World κ)
      (ho : world.gate.isOpen = true) (hp : world.catalog.find? event.projectKey = some project)
      (hm : project.descriptor.isManaged event.ref = false) :
      Move (.requested event) world
        (.finished (.error (.refNotManaged event.projectKey event.ref))) world []
  | accepted (event : BuildEvent) (project : Project) (world : World κ)
      (ho : world.gate.isOpen = true) (hp : world.catalog.find? event.projectKey = some project)
      (hm : project.descriptor.isManaged event.ref = true) :
      Move (.requested event) world
        (.acquiring { event with id := some world.mint.1 } world.mint.1 project) world.mint.2 []
  | acquired (event : BuildEvent) (id : BuildId) (project : Project) (world : World κ)
      (outages : LockOutages) (hf : world.ttl.Fits world.now)
      (hh : world.locks.isHeld event.lockName world.now = false) :
      Move (.acquiring event id project) world (.creating event id project)
        { world with
          locks := world.locks.write (event.lockRecord world.now world.ttl)
          lockOutages := outages }
        [.put (event.lockRecord world.now world.ttl) world.now (.ok true)]
  | refused (event : BuildEvent) (id : BuildId) (project : Project) (world : World κ)
      (outages : LockOutages) (hf : world.ttl.Fits world.now)
      (hh : world.locks.isHeld event.lockName world.now = true) :
      Move (.acquiring event id project) world (.deferring event id)
        { world with lockOutages := outages }
        [.put (event.lockRecord world.now world.ttl) world.now (.ok false)]
  | unanswered (event : BuildEvent) (id : BuildId) (project : Project) (world : World κ)
      (outages : LockOutages) (error : Error) (hf : world.ttl.Fits world.now) :
      Move (.acquiring event id project) world (.deferring event id)
        { world with lockOutages := outages }
        [.put (event.lockRecord world.now world.ttl) world.now (.error error)]
  | panicked (event : BuildEvent) (id : BuildId) (project : Project) (world : World κ)
      (hf : ¬ world.ttl.Fits world.now) :
      Move (.acquiring event id project) world .panicked world []
  | deferred (event : BuildEvent) (id : BuildId) (world : World κ) (outages : QueueOutages) :
      Move (.deferring event id) world (.finished (.ok (.deferred event.lockName)))
        { world with queue := world.queue.defer event world.now, queueOutages := outages }
        [.defer event (.ok ())]
  | undeferred (event : BuildEvent) (id : BuildId) (world : World κ) (outages : QueueOutages)
      (error : Error) :
      Move (.deferring event id) world (.finished (.ok (.failed id error)))
        { world with queueOutages := outages } [.defer event (.error error)]
  | created (event : BuildEvent) (id : BuildId) (project : Project) (world : World κ) (state : κ)
      (elapsed : Nat) :
      Move (.creating event id project) world (.finished (.ok (.launched id)))
        { world with cluster := state, clock := world.clock + elapsed }
        [.create (world.template.buildPod event id project) (.ok ())]
  | uncreated (event : BuildEvent) (id : BuildId) (project : Project) (world : World κ) (state : κ)
      (elapsed : Nat) (error : Error) :
      Move (.creating event id project) world (.releasing event id error.asPodCreation)
        { world with cluster := state, clock := world.clock + elapsed }
        [.create (world.template.buildPod event id project) (.error error)]
  | released (event : BuildEvent) (id : BuildId) (cause : Error) (world : World κ)
      (outages : LockOutages) :
      Move (.releasing event id cause) world (.finished (.ok (.failed id cause)))
        { world with locks := world.locks.delete event.lockName, lockOutages := outages }
        [.delete event.lockName (.ok ())]
  | unreleased (event : BuildEvent) (id : BuildId) (cause : Error) (world : World κ)
      (outages : LockOutages) (error : Error) :
      Move (.releasing event id cause) world (.finished (.ok (.failed id cause)))
        { world with lockOutages := outages } [.delete event.lockName (.error error)]
  | idle (result : Result LaunchOutcome) (world : World κ) :
      Move (.finished result) world (.finished result) world []
  | gone (world : World κ) : Move .panicked world .panicked world []

/-! ## Every step is a move -/

section Steps

variable (cluster : Cluster κ) (event : BuildEvent) (id : BuildId) (project : Project)
  (world : World κ)

theorem move_requested :
    Move (.requested event) world ((requested event).step (World.site cluster) world).1
      ((requested event).step (World.site cluster) world).2 [] := by
  have hs : (requested event).step (World.site cluster) world =
      accept (World.site cluster) event world := rfl
  rw [hs]
  cases ho : world.gate.isOpen with
  | false =>
      have ha : accept (World.site cluster) event world =
          (.finished (.ok .queueClosed), world) := by
        simp [accept, World.site, ho]
      rw [ha]
      exact .closed event world ho
  | true =>
      cases hp : world.catalog.find? event.projectKey with
      | none =>
          have ha : accept (World.site cluster) event world =
              (.finished (.error (.projectNotFound event.projectKey)), world) := by
            simp [accept, World.site, ho, hp]
          rw [ha]
          exact .unknown event world ho hp
      | some project =>
          cases hm : project.descriptor.isManaged event.ref with
          | false =>
              have ha : accept (World.site cluster) event world =
                  (.finished (.error (.refNotManaged event.projectKey event.ref)), world) := by
                simp [accept, World.site, ho, hp, hm]
              rw [ha]
              exact .unmanaged event project world ho hp hm
          | true =>
              have ha : accept (World.site cluster) event world =
                  (.acquiring { event with id := some world.mint.1 } world.mint.1 project,
                    world.mint.2) := by
                simp [accept, World.site, ho, hp, hm]
              rw [ha]
              exact .accepted event project world ho hp hm

theorem move_acquiring :
    Move (.acquiring event id project) world
      ((acquiring event id project).step (World.site cluster) world).1
      ((acquiring event id project).step (World.site cluster) world).2
      ((acquiring event id project).calls (World.collaborators cluster) world) := by
  by_cases hf : world.ttl.Fits world.now
  · have hcalls : (acquiring event id project).calls (World.collaborators cluster) world =
        [.put (event.lockRecord world.now world.ttl) world.now
          (world.putLock (event.lockRecord world.now world.ttl) world.now).1] := if_pos hf
    rw [hcalls]
    simp only [step, World.site, World.acquire, acquireLock, if_pos hf, World.putLock]
    rcases hn : world.lockOutages.put.next with ⟨failure, put⟩
    cases failure with
    | some reason => exact .unanswered event id project world _ _ hf
    | none =>
        cases hh : world.locks.isHeld event.lockName world.now with
        | false =>
            have hp : world.locks.put (event.lockRecord world.now world.ttl) world.now =
                (true, world.locks.write (event.lockRecord world.now world.ttl)) := by
              simp [LockStore.put, BuildEvent.lockRecord, hh]
            rw [hp]
            exact .acquired event id project world _ hf hh
        | true =>
            have hp : world.locks.put (event.lockRecord world.now world.ttl) world.now =
                (false, world.locks) := by
              simp [LockStore.put, BuildEvent.lockRecord, hh]
            rw [hp]
            exact .refused event id project world _ hf hh
  · have hcalls : (acquiring event id project).calls (World.collaborators cluster) world = [] :=
      if_neg hf
    rw [hcalls]
    simp only [step, World.site, World.acquire, acquireLock, if_neg hf]
    exact .panicked event id project world hf

theorem move_deferring :
    Move (.deferring event id) world ((deferring event id).step (World.site cluster) world).1
      ((deferring event id).step (World.site cluster) world).2
      [.defer event (world.deferBuild event).1] := by
  simp only [step, World.site, World.deferBuild]
  rcases hf : world.queueOutages.defer.next with ⟨failure, defer⟩
  cases failure with
  | some reason => exact .undeferred event id world _ _
  | none => exact .deferred event id world _

theorem move_creating :
    Move (.creating event id project) world
      ((creating event id project).step (World.site cluster) world).1
      ((creating event id project).step (World.site cluster) world).2
      [.create (world.template.buildPod event id project)
        (world.createPod cluster (world.template.buildPod event id project)).1] := by
  simp only [step, World.site, World.createPod, World.answered]
  rcases hr : cluster.create world.clock (world.template.buildPod event id project)
    world.cluster with ⟨⟨result, elapsed⟩, state⟩
  cases result with
  | ok value => exact .created event id project world state elapsed
  | error error => exact .uncreated event id project world state elapsed error

theorem move_releasing (cause : Error) :
    Move (.releasing event id cause) world
      ((releasing event id cause).step (World.site cluster) world).1
      ((releasing event id cause).step (World.site cluster) world).2
      [.delete event.lockName (world.deleteLock event.lockName).1] := by
  simp only [step, World.site, World.release, World.deleteLock]
  rcases hf : world.lockOutages.delete.next with ⟨failure, delete⟩
  cases failure with
  | some reason => exact .unreleased event id cause world _ _
  | none => exact .released event id cause world _

end Steps

theorem move_step (cluster : Cluster κ) (launch : Launch) (world : World κ) :
    Move launch world (launch.step (World.site cluster) world).1
      (launch.step (World.site cluster) world).2
      (launch.calls (World.collaborators cluster) world) := by
  cases launch with
  | requested event => exact move_requested cluster event world
  | acquiring event id project => exact move_acquiring cluster event id project world
  | deferring event id => exact move_deferring cluster event id world
  | creating event id project => exact move_creating cluster event id project world
  | releasing event id cause => exact move_releasing cluster event id world cause
  | finished result => exact .idle result world
  | panicked => exact .gone world

/-! ## What no move undoes -/

section Moved

variable {launch next : Launch} {world after : World κ} {calls : List Call}

theorem Move.gate_eq (move : Move launch world next after calls) : after.gate = world.gate := by
  cases move with
  | _ => rfl

theorem Move.catalog_eq (move : Move launch world next after calls) :
    after.catalog = world.catalog := by
  cases move with
  | _ => rfl

theorem Move.clock_le (move : Move launch world next after calls) : world.clock ≤ after.clock := by
  cases move with
  | created => exact Nat.le_add_right _ _
  | uncreated => exact Nat.le_add_right _ _
  | _ => exact Nat.le_refl _

theorem Move.now_le (move : Move launch world next after calls) : world.now ≤ after.now := by
  have hs : world.start = after.start := by
    cases move with
    | _ => rfl
  rw [World.now, World.now, hs]
  exact Instant.add_le_add after.start move.clock_le

/-- A launch takes nothing out of the queue. -/
theorem Move.queued (move : Move launch world next after calls) {name : String}
    (h : name ∈ world.queue.lockNames) : name ∈ after.queue.lockNames := by
  cases move with
  | deferred event id world outages => exact DeferralQueue.mem_lockNames_defer.2 (.inl h)
  | _ => exact h

end Moved

end Launch

namespace World

variable (cluster : Cluster κ) (event : BuildEvent) (world : World κ)

theorem gate_launch : (world.launch cluster event).2.gate = world.gate := by
  let kept (after : World κ) : Prop := after.gate = world.gate
  have hs : ∀ launch after, kept after → kept (Launch.step (site cluster) launch after).2 :=
    fun launch after h => (launch.move_step cluster after).gate_eq.trans h
  exact Launch.run_keeps hs (.requested event) world rfl

theorem clock_le_launch : world.clock ≤ (world.launch cluster event).2.clock := by
  let kept (after : World κ) : Prop := world.clock ≤ after.clock
  have hs : ∀ launch after, kept after → kept (Launch.step (site cluster) launch after).2 :=
    fun launch after h => Nat.le_trans h (launch.move_step cluster after).clock_le
  exact Launch.run_keeps hs (.requested event) world (Nat.le_refl _)

theorem queued_launch {name : String} (h : name ∈ world.queue.lockNames) :
    name ∈ (world.launch cluster event).2.queue.lockNames := by
  let kept (after : World κ) : Prop := name ∈ after.queue.lockNames
  have hs : ∀ launch after, kept after → kept (Launch.step (site cluster) launch after).2 :=
    fun launch after h => (launch.move_step cluster after).queued h
  exact Launch.run_keeps hs (.requested event) world h

theorem launch_eq_collaborators :
    world.launch cluster event = (collaborators cluster).site.launch event world := by
  rw [launch, site_collaborators]

end World

end BuildScheduler
