import BuildScheduler.Proofs.Config.Keys
import BuildScheduler.Proofs.Resubmission.Accounting
import BuildScheduler.Proofs.Runs.LockHistory

/-!
# Lock names of configured projects

Over the catalog of a configuration every build that a launch queues passes the lookup, and among
builds that pass it a lock name stands for one ref of one project. So a launch that answers deferred
leaves its own build in the queue, or the same one queued before, never another of the same name:
`lockNames_unambiguous`.
-/

namespace BuildScheduler

/-- The builds that are deferred directly pass the lookup. -/
def Operation.Admissible (catalog : Catalog) : Operation → Prop
  | .defer event => (catalog.find? event.projectKey).isSome = true
  | _ => True

namespace World

/-! ## What is queued -/

section Queue

variable {cluster : Cluster κ} {event entry : BuildEvent} {world : World κ}

/-- A put changes the lock store at most, and the outages that are left of it. -/
theorem putLock_frame (record : LockRecord) (now : Instant) (world : World κ) :
    ∃ locks lockOutages, (world.putLock record now).2 = { world with locks, lockOutages } := by
  unfold putLock
  rcases world.lockOutages.put.next with ⟨failure, put⟩
  cases failure with
  | some reason => exact ⟨_, _, rfl⟩
  | none => exact ⟨_, _, rfl⟩

theorem deleteLock_frame (name : String) (world : World κ) :
    ∃ locks lockOutages, (world.deleteLock name).2 = { world with locks, lockOutages } := by
  unfold deleteLock
  rcases world.lockOutages.delete.next with ⟨failure, delete⟩
  cases failure with
  | some reason => exact ⟨_, _, rfl⟩
  | none => exact ⟨_, _, rfl⟩

theorem queue_putLock (record : LockRecord) (now : Instant) (world : World κ) :
    (world.putLock record now).2.queue = world.queue := by
  obtain ⟨locks, outages, h⟩ := putLock_frame record now world
  rw [h]

theorem queue_deleteLock (name : String) (world : World κ) :
    (world.deleteLock name).2.queue = world.queue := by
  obtain ⟨locks, outages, h⟩ := deleteLock_frame name world
  rw [h]

theorem projectKey_of_mem_defer {queue : DeferralQueue} {now : Instant}
    (h : entry ∈ (queue.defer event now).entries) :
    entry ∈ queue.entries ∨ entry.projectKey = event.projectKey := by
  unfold DeferralQueue.defer at h
  split at h
  · exact .inl h
  · obtain h | h := List.mem_append.1 h
    · exact .inl h
    · rw [List.mem_singleton.1 h]
      exact .inr rfl

/-- A deferral queues nothing but its event. -/
theorem projectKey_of_mem_deferBuild (h : entry ∈ (world.deferBuild event).2.queue.entries) :
    entry ∈ world.queue.entries ∨ entry.projectKey = event.projectKey := by
  unfold deferBuild at h
  rcases hf : world.queueOutages.defer.next with ⟨failure, defer⟩
  rw [hf] at h
  cases failure with
  | some reason => exact .inl h
  | none => exact projectKey_of_mem_defer h

theorem catalog_launch (cluster : Cluster κ) (event : BuildEvent) (world : World κ) :
    (world.launch cluster event).2.catalog = world.catalog := by
  let kept (after : World κ) : Prop := after.catalog = world.catalog
  have hs : ∀ launch after, kept after → kept (Launch.step (site cluster) launch after).2 :=
    fun launch after h => (launch.move_step cluster after).catalog_eq.trans h
  exact Launch.run_keeps hs (.requested event) world rfl

/-- A launch queues nothing but its event, and that only when it passes the lookup. -/
theorem projectKey_of_mem_launch
    (h : entry ∈ (world.launch cluster event).2.queue.entries) :
    entry ∈ world.queue.entries ∨
      entry.projectKey = event.projectKey ∧
        (world.catalog.find? event.projectKey).isSome = true := by
  have hx := (collaborators cluster).launch_exit event world
  rw [← launch_eq_collaborators] at hx
  generalize (world.launch cluster event).1 = result at hx
  generalize (world.launch cluster event).2 = after at h hx
  generalize ((collaborators cluster).transcript event world).2 = calls at hx
  have htried : ((collaborators cluster).tried event world).2.queue = world.queue :=
    queue_putLock _ _ _
  have hfound : ∀ project, (collaborators cluster).Admits event world project →
      (world.catalog.find? event.projectKey).isSome = true :=
    fun project ha => Option.isSome_iff_exists.2 ⟨project, ha.found⟩
  cases hx with
  | closed => exact .inl h
  | unknown => exact .inl h
  | unmanaged => exact .inl h
  | panicked => exact .inl h
  | deferred project ha =>
      obtain h | h := projectKey_of_mem_deferBuild h
      · exact .inl (htried ▸ h)
      · exact .inr ⟨h, hfound project ha⟩
  | undeferred project error ha =>
      obtain h | h := projectKey_of_mem_deferBuild h
      · exact .inl (htried ▸ h)
      · exact .inr ⟨h, hfound project ha⟩
  | launched => exact .inl (htried ▸ h)
  | uncreated project =>
      have hq : ((collaborators cluster).withdrawal event world project).2.queue = world.queue :=
        (queue_deleteLock _ _).trans htried
      exact .inl (hq ▸ h)

/-- A launch that answers deferred passed the lookup, and its lock name is queued. -/
theorem lockName_of_deferred {name : String}
    (h : (world.launch cluster event).1 = some (.ok (.deferred name))) :
    name = event.lockName ∧ (world.catalog.find? event.projectKey).isSome = true ∧
      event.lockName ∈ (world.launch cluster event).2.queue.lockNames := by
  have hx := (collaborators cluster).launch_exit event world
  rw [← launch_eq_collaborators, h] at hx
  generalize (world.launch cluster event).2 = after at hx
  generalize ((collaborators cluster).transcript event world).2 = calls at hx
  cases hx with
  | deferred project ha hf hw hd =>
      exact ⟨rfl, Option.isSome_iff_exists.2 ⟨project, ha.found⟩, lockName_mem_deferBuild hd⟩

end Queue

/-! ## Over whole runs -/

/-- The world has the catalog, and every queued build passes its lookup. -/
structure Configured (catalog : Catalog) (world : World κ) : Prop where
  catalog_eq : world.catalog = catalog
  found : ∀ entry ∈ world.queue.entries, (catalog.find? entry.projectKey).isSome = true

namespace Configured

variable {cluster : Cluster κ} {catalog : Catalog} {world : World κ}

theorem launch (h : world.Configured catalog) (event : BuildEvent) :
    (world.launch cluster event).2.Configured catalog := by
  refine ⟨(catalog_launch cluster event world).trans h.catalog_eq, fun entry hm => ?_⟩
  obtain hm | ⟨hk, hf⟩ := projectKey_of_mem_launch hm
  · exact h.found entry hm
  · rwa [hk, ← h.catalog_eq]

theorem pollDeferred (h : world.Configured catalog) :
    world.pollDeferred.2.Configured catalog := by
  unfold World.pollDeferred
  rcases world.queueOutages.poll.next with ⟨failure, poll⟩
  cases failure with
  | some reason => exact ⟨h.catalog_eq, h.found⟩
  | none => exact ⟨h.catalog_eq, List.forall_mem_nil _⟩

theorem clearDeferred (h : world.Configured catalog) (name : String) :
    (world.clearDeferred name).2.Configured catalog := by
  unfold World.clearDeferred
  rcases world.queueOutages.remove.next with ⟨failure, remove⟩
  cases failure with
  | some reason => exact ⟨h.catalog_eq, h.found⟩
  | none => exact ⟨h.catalog_eq, fun entry hm => h.found entry (List.mem_filter.1 hm).1⟩

theorem deferBuild (h : world.Configured catalog) {event : BuildEvent}
    (hf : (catalog.find? event.projectKey).isSome = true) :
    (world.deferBuild event).2.Configured catalog := by
  refine ⟨?_, fun entry hm => ?_⟩
  · rw [← h.catalog_eq, World.deferBuild]
    rcases world.queueOutages.defer.next with ⟨failure, defer⟩
    cases failure with
    | some reason => rfl
    | none => rfl
  · obtain hm | hk := projectKey_of_mem_deferBuild hm
    · exact h.found entry hm
    · rwa [hk]

theorem release (h : world.Configured catalog) (event : BuildEvent) :
    (world.release event).2.Configured catalog := by
  unfold World.release World.deleteLock
  rcases world.lockOutages.delete.next with ⟨failure, delete⟩
  cases failure with
  | some reason => exact ⟨h.catalog_eq, h.found⟩
  | none => exact ⟨h.catalog_eq, h.found⟩

theorem perform (h : world.Configured catalog) {operation : Operation}
    (ho : operation.Admissible catalog) : (world.perform cluster operation).Configured catalog := by
  cases operation with
  | launch event => exact h.launch event
  | relaunch =>
      have series := series_relaunchDeferred cluster world
      exact (series.keeps (fun event _ _ hw => hw.launch event) h.pollDeferred).2
  | defer event => exact h.deferBuild ho
  | clear name => exact h.clearDeferred name
  | release event => exact h.release event
  | _ => exact ⟨h.catalog_eq, h.found⟩

/-- Every launch of a run meets a configured world. -/
theorem of_mem_deeds (h : world.Configured catalog) {operations : List Operation}
    (ho : ∀ operation ∈ operations, operation.Admissible catalog) {launch : LaunchAt κ}
    (hm : .launching launch ∈ world.deeds cluster operations) :
    launch.world.Configured catalog := by
  induction operations generalizing world with
  | nil => cases hm
  | cons operation rest ih =>
      rw [List.forall_mem_cons] at ho
      obtain hm | hm := List.mem_append.1 hm
      · cases operation with
        | launch event =>
            obtain rfl := Deed.launching.inj (List.mem_singleton.1 hm)
            exact h
        | relaunch =>
            obtain ⟨other, hl, hd⟩ := List.mem_map.1 hm
            obtain rfl := Deed.launching.inj hd
            have series := series_relaunchDeferred cluster world
            exact (series.keeps (fun event _ _ hw => hw.launch event) h.pollDeferred).1 other hl
        | release event => cases List.mem_singleton.1 hm
        | _ => cases hm
      · exact ih (h.perform ho.1) ho.2 hm

end Configured

/-- For the configuration of any text and the catalog of its projects: the key of an event is looked
up to the project of its team and name. Two events that pass the lookup have one lock name if and
only if team, project and ref are the same. In any run from an empty queue, in which what is
deferred directly passes the lookup, a launch that answers deferred, requested or resubmitted,
leaves an entry of exactly its team, project and ref in the queue. -/
theorem lockNames_unambiguous {text : String} {config : Config}
    (h : Config.ofText text = .ok config) :
    let catalog := Catalog.ofList config.projects
    (∀ (event : BuildEvent) (project : Project),
      catalog.find? event.projectKey = some project ↔
        project ∈ config.projects ∧ project.team = event.team ∧ project.name = event.project) ∧
    (∀ a b : BuildEvent, (catalog.find? a.projectKey).isSome = true →
      (catalog.find? b.projectKey).isSome = true →
        (a.lockName = b.lockName ↔ a.team = b.team ∧ a.project = b.project ∧ a.ref = b.ref)) ∧
    ∀ (κ : Type) (cluster : Cluster κ) (world : World κ) (operations : List Operation),
      world.catalog = catalog → world.queue = .empty →
      (∀ operation ∈ operations, operation.Admissible catalog) →
      ∀ (launch : LaunchAt κ) (name : String),
        .launching launch ∈ world.deeds cluster operations →
        launch.result cluster = some (.ok (.deferred name)) →
          name = launch.event.lockName ∧
          ∃ entry ∈ (launch.after cluster).queue.entries,
            entry.team = launch.event.team ∧ entry.project = launch.event.project ∧
              entry.ref = launch.event.ref := by
  intro catalog
  have hk := Config.keyed_of_ofText h
  refine ⟨hk.find?_projectKey_iff, fun a b => hk.lockName_eq_iff, ?_⟩
  intro κ cluster world operations hc hq ho launch name hm hd
  have hstart : world.Configured catalog := ⟨hc, by rw [hq]; exact List.forall_mem_nil _⟩
  have hmet : launch.world.Configured catalog := hstart.of_mem_deeds ho hm
  obtain ⟨hname, hfound, hqueued⟩ := lockName_of_deferred hd
  -- whoever queued the entry of that name, its project was looked up
  obtain ⟨entry, hentry, hsame⟩ := List.mem_map.1 hqueued
  rw [hmet.catalog_eq] at hfound
  have hleft : (launch.after cluster).Configured catalog := hmet.launch launch.event
  exact ⟨hname, entry, hentry, (hk.lockName_eq_iff (hleft.found entry hentry) hfound).1 hsame⟩

/-- The second launch of a build is deferred. Another event has the same lock name, but its project
is not configured. -/
theorem lockNames_unambiguous_of_second_launch :
    let config : Config :=
      { projects := [{ team := "acme", name := "app", descriptor := { image := "builder" } }] }
    let catalog := Catalog.ofList config.projects
    let event : BuildEvent := { team := "acme", project := "app", ref := "x/y" }
    let other : BuildEvent := { team := "acme", project := "app/x", ref := "y" }
    let world : World Recorder := { Crew.sampleWorld [] with catalog }
    let after := world.performAll Recorder.cluster [.launch event, .launch event]
    Config.ofText "project \"acme/app\" image=\"builder\"" = .ok config ∧
    event.lockName = other.lockName ∧ catalog.find? other.projectKey = none ∧
    ∃ entry ∈ after.queue.entries,
      entry.team = event.team ∧ entry.project = event.project ∧ entry.ref = event.ref := by
  intro config catalog event other world after
  have hread : Config.ofText "project \"acme/app\" image=\"builder\"" = .ok config := by
    decide +kernel
  obtain ⟨hfind, -, hqueued⟩ := lockNames_unambiguous hread
  refine ⟨hread, by decide, ?_, ?_⟩
  · refine Option.eq_none_iff_forall_ne_some.2 fun project hp => ?_
    obtain ⟨hm, -, hname⟩ := (hfind other project).1 hp
    obtain rfl := List.mem_singleton.1 hm
    exact absurd hname (by decide)
  · let launch : LaunchAt Recorder := ⟨event, world.perform Recorder.cluster (.launch event)⟩
    have hresult : launch.result Recorder.cluster = some (.ok (.deferred event.lockName)) := by
      decide +kernel
    exact (hqueued Recorder Recorder.cluster world [.launch event, .launch event] rfl rfl
      (by simp [Operation.Admissible]) launch _ (List.mem_cons_of_mem _ (List.mem_singleton_self _))
      hresult).2

end World

end BuildScheduler
