import BuildScheduler.Proofs.Launch.Twins
import BuildScheduler.Proofs.Runs.Identifiers

/-!
# What a launched build is known by

Five places name a launched build: the answer of the launch, its pod, the variables of its build
container, the record of its lock, and the answers to whoever contends for the lock. They agree, and
none depends on the identifier or the stamp that the event brings along: `launch_identities`.
-/

namespace BuildScheduler

/-! ## The build container of a pod -/

namespace PodTemplate

variable (template : PodTemplate) (event : BuildEvent) (id : BuildId) (project : Project)

theorem container?_buildPod :
    (template.buildPod event id project).container? buildContainerName =
      some (buildContainer event id project) := by
  simp [PodSpec.container?, buildPod, buildContainer]

/-- A sidecar cannot pass for the build container. -/
theorem eq_buildContainer_of_name {container : Container}
    (hm : container ∈ (template.buildPod event id project).containers)
    (hn : container.name = buildContainerName) : container = buildContainer event id project := by
  obtain h | h := List.mem_cons.1 hm
  · exact h
  · exact absurd hn (name_ne_of_mem_sidecars h)

end PodTemplate

namespace World

/-! ## Lock and queue -/

section Stores

variable {world : World κ}

theorem putLock_eq_written {record : LockRecord} {now : Instant}
    (h : (world.putLock record now).1 = .ok true) :
    world.locks.isHeld record.name now = false ∧
      (world.putLock record now).2.locks = world.locks.write record := by
  unfold putLock at h ⊢
  rcases hf : world.lockOutages.put.next with ⟨failure, put⟩
  rw [hf] at h
  cases failure with
  | some reason => cases h
  | none =>
      simp only [LockStore.put] at h ⊢
      cases hh : world.locks.isHeld record.name now with
      | true =>
          rw [hh] at h
          cases h
      | false => exact ⟨rfl, rfl⟩

theorem deferBuild_of_no_outage (h : world.queueOutages.defer.next.1 = none) (event : BuildEvent) :
    (world.deferBuild event).1 = .ok () := by
  unfold deferBuild
  rcases hn : world.queueOutages.defer.next with ⟨failure, defer⟩
  rw [hn] at h
  cases h
  rfl

theorem queueOutages_putLock (record : LockRecord) (now : Instant) (world : World κ) :
    (world.putLock record now).2.queueOutages = world.queueOutages := by
  obtain ⟨locks, outages, h⟩ := putLock_frame record now world
  rw [h]

end Stores

section Contention

variable {cluster : Cluster κ} {event : BuildEvent} {world : World κ}

/-- A launch that meets a live lock is deferred, whether the lock store answers or not, if the
calendar has the end of the lock that it asks for. -/
theorem launch_of_held (ha : world.admits event = true)
    (hh : world.locks.isHeld event.lockName world.now = true)
    (hq : world.queueOutages.defer.next.1 = none) :
    (world.launch cluster event).1 =
      if world.ttl.Fits world.now then some (.ok (.deferred event.lockName)) else none := by
  have hx := (collaborators cluster).launch_exit event world
  rw [← launch_eq_collaborators] at hx
  generalize (world.launch cluster event).1 = result at hx ⊢
  generalize (world.launch cluster event).2 = after at hx
  generalize ((collaborators cluster).transcript event world).2 = calls at hx
  have hrefused : ((collaborators cluster).tried event world).1 ≠ .ok true := by
    intro hw
    have hfree : world.locks.isHeld event.lockName world.now = false := (putLock_eq_written hw).1
    cases hh.symm.trans hfree
  cases hx with
  | closed ho => cases ha.symm.trans (admits_eq_false_of_closed ho)
  | unknown ho hp => cases ha.symm.trans (admits_eq_false_of_unknown hp)
  | unmanaged project ho hp hm => cases ha.symm.trans (admits_eq_false_of_unmanaged hp hm)
  | panicked project _ hf => exact (if_neg hf).symm
  | deferred project _ hf => exact (if_pos hf).symm
  | undeferred project error _ _ _ hd =>
      have hkept : ((collaborators cluster).tried event world).2.queueOutages =
          world.queueOutages := queueOutages_putLock _ _ _
      have hok := deferBuild_of_no_outage (hkept ▸ hq)
        ((collaborators cluster).identified event world)
      cases hok.symm.trans hd
  | launched project _ _ hw => exact absurd hw hrefused
  | uncreated project error _ _ hw => exact absurd hw hrefused

theorem admits_congr {other : BuildEvent} (h : event.Agrees other) :
    world.admits other = world.admits event := by
  rw [admits, admits, h.projectKey_eq, h.ref]

end Contention

/-! ## A launched build -/

/-- The answer of a launch, the record of its lock and its pod agree. -/
structure Identities (cluster : Cluster κ) (event : BuildEvent) (world : World κ) (id : BuildId)
    (record : LockRecord) (spec : PodSpec) (build : Container) : Prop where
  admitted : world.admits event = true
  minted : id = world.mint.1
  fresh : world.ids.Counted → world.ids.given.length < twoTo 74 → id ∉ world.ids.given
  calls : ((collaborators cluster).transcript event world).2 =
    [.put record world.now (.ok true), .create spec (.ok ())]
  stored : (world.launch cluster event).2.locks.get? record.name = some record
  pod : spec.name = id.toText
  found : spec.container? buildContainerName = some build
  alone : ∀ container ∈ spec.containers, container.name = buildContainerName → container = build
  buildId : build.envValue "BUILD_ID" = some id.toText
  lockKey : build.envValue "BUILD_LOCK_KEY" = some record.name
  project : ∃ key project, build.envValue "PROJECT_KEY" = some key ∧ key = event.projectKey ∧
    world.catalog.find? key = some project ∧ build.image = some project.descriptor.image
  branch : build.envValue "BRANCH_TO_BUILD" = some event.ref

section Launched

variable {cluster : Cluster κ} {event : BuildEvent} {world : World κ} {id : BuildId}
  (h : (world.launch cluster event).1 = some (.ok (.launched id)))
include h

theorem identities_of_launched :
    ∃ spec build, Identities cluster event world id (world.lockRecord event) spec build := by
  have hx := (collaborators cluster).launch_exit event world
  rw [← launch_eq_collaborators, h] at hx
  generalize hafter : (world.launch cluster event).2 = after at hx
  generalize hcalls : ((collaborators cluster).transcript event world).2 = calls at hx
  cases hx with
  | launched project ha hf hw hc =>
      have hput : (collaborators cluster).putCall event world =
          .put (world.lockRecord event) world.now (.ok true) := by
        rw [← hw]
        rfl
      let identified := (collaborators cluster).identified event world
      let template := ((collaborators cluster).tried event world).2.template
      let spec := template.buildPod identified world.mint.1 project
      let build := PodTemplate.buildContainer identified world.mint.1 project
      refine ⟨spec, build, ?_⟩
      exact
        { admitted := (admits_of_admits ha).1
          minted := rfl
          fresh := fun hcounted hroom => hcounted.next_not_mem hroom world.millis
          calls := by
            rw [hcalls, hput]
            rfl
          stored := by
            have hlocks : ((collaborators cluster).submission event world project).2.locks =
                world.locks.write (world.lockRecord event) := (putLock_eq_written hw).2
            rw [hafter, hlocks, LockStore.get?_write, if_pos rfl]
          pod := rfl
          found := PodTemplate.container?_buildPod template identified world.mint.1 project
          alone := fun container hm hn =>
            PodTemplate.eq_buildContainer_of_name template identified world.mint.1 project hm hn
          buildId := rfl
          lockKey := rfl
          project := ⟨event.projectKey, project, rfl, rfl, ha.found, rfl⟩
          branch := rfl }

/-- While the lock of a launched build is live, a launch of the same build is deferred under the
name of its record. -/
theorem deferred_while_live {contender : BuildEvent} (hc : event.Agrees contender) {nanos : Nat}
    (hl : (world.lockRecord event).isExpired
      ((world.launch cluster event).2.wait nanos).now = false)
    (hq : ((world.launch cluster event).2.wait nanos).queueOutages.defer.next.1 = none) :
    let later := (world.launch cluster event).2.wait nanos
    (later.launch cluster contender).1 =
      if later.ttl.Fits later.now then some (.ok (.deferred (world.lockRecord event).name))
      else none := by
  intro later
  obtain ⟨spec, build, hi⟩ := identities_of_launched h
  have hname : contender.lockName = (world.lockRecord event).name := hc.lockName_eq.symm
  rw [← hname]
  refine launch_of_held ?_ ?_ hq
  · have hkept : ((world.launch cluster event).2.wait nanos).admits contender =
        world.admits contender := by
      rw [admits, admits, ← gate_launch cluster event world, ← catalog_launch cluster event world]
      rfl
    rw [hkept, admits_congr hc, hi.admitted]
  · have hstands : ((world.launch cluster event).2.wait nanos).locks.get? contender.lockName =
        some (world.lockRecord event) := hname ▸ hi.stored
    rw [LockStore.isHeld, hstands, Option.any_some, hl]
    rfl

end Launched

/-! ## Two launches of one build -/

section TwoLaunches

variable {cluster : Cluster κ} {a b : BuildEvent} (h : a.Agrees b)
include h

/-- What an event brings along decides nothing. -/
theorem launch_same (world : World κ) :
    world.launch cluster a = world.launch cluster b ∧
      ((collaborators cluster).transcript a world).2.map Call.unstamped =
        ((collaborators cluster).transcript b world).2.map Call.unstamped := by
  obtain ⟨hresults, hafter, hcalls⟩ :=
    Likeness.launch_alike (Likeness.respects_same cluster) h (rfl : world = world)
  rw [← launch_eq_collaborators, ← launch_eq_collaborators] at hresults hafter
  exact ⟨Prod.ext hresults.eq_of_same hafter,
    Likeness.map_eq_of_calls (fun hc => hc.unstamped_of_same) hcalls⟩

theorem launch_twins {alike : κ → κ → Prop} (hb : cluster.Blind alike) {world twin : World κ}
    (ht : world.Twins alike twin) (id : BuildId) :
    (world.launch cluster a).1.map (·.map (LaunchOutcome.withId id)) =
        (twin.launch cluster b).1.map (·.map (LaunchOutcome.withId id)) ∧
      (world.launch cluster a).2.Twins alike (twin.launch cluster b).2 ∧
      ((collaborators cluster).transcript a world).2.map (fun call => (call.withId id).unstamped) =
        ((collaborators cluster).transcript b twin).2.map
          (fun call => (call.withId id).unstamped) := by
  obtain ⟨hresults, hafter, hcalls⟩ :=
    Likeness.launch_alike (Likeness.respects_twins hb) h ht
  rw [← launch_eq_collaborators, ← launch_eq_collaborators] at hresults hafter
  exact ⟨hresults.withId_of_twins id, hafter,
    Likeness.map_eq_of_calls (fun hc => hc.withId_of_twins id) hcalls⟩

end TwoLaunches

/-- Deferred builds are launched as if they had just been triggered. -/
theorem launchAll_trigger (cluster : Cluster κ) (events : List BuildEvent) (world : World κ) :
    launchAll cluster events world = launchAll cluster (events.map BuildEvent.trigger) world := by
  induction events generalizing world with
  | nil => rfl
  | cons event rest ih =>
      simp only [List.map_cons, launchAll, (launch_same event.agrees_trigger world).1, ih]

/-- In every world, for every event, whatever identifier and stamp it brings along:

A launch that answers launched gives the identifier that is minted in it. It has written one record
and submitted one pod. The name of the pod and the variable `BUILD_ID` of its only build container
are that identifier, `BUILD_LOCK_KEY` is the name of the record, which stands in the store,
`PROJECT_KEY` is the key under which the project was found, and `BRANCH_TO_BUILD` is the ref as it
is. A launch of the same build that is deferred, anywhere, is deferred under the name of the
record, and it is deferred while the record is live, if the queue takes it and the calendar has the
end of the lock that it asks for.

Another event for the same build has the same result, leaves the same world and makes the same
calls; its stamp reaches the queue, which replaces it. In a world that differs in identifiers, over
a cluster that does not look at them, results, calls, pods and the worlds left behind are the same
up to identifiers. So a pass over deferred builds does what it would do for new triggers.

In a run from the start, in which what is triggered from outside has no identifier, no build is
launched under the identifier that it was deferred with. -/
theorem launch_identities (cluster : Cluster κ) (event : BuildEvent) (world : World κ) :
    let run := world.launch cluster event
    let calls := ((collaborators cluster).transcript event world).2
    let record := world.lockRecord event
    (∀ id, run.1 = some (.ok (.launched id)) →
      (∃ spec build, Identities cluster event world id record spec build) ∧
      ∀ contender, event.Agrees contender →
        (∀ (other : World κ) (name : String),
          (other.launch cluster contender).1 = some (.ok (.deferred name)) → name = record.name) ∧
        ∀ nanos, let later := run.2.wait nanos
          record.isExpired later.now = false → later.queueOutages.defer.next.1 = none →
            (later.launch cluster contender).1 =
              if later.ttl.Fits later.now then some (.ok (.deferred record.name)) else none) ∧
    (∀ other, event.Agrees other →
      run = world.launch cluster other ∧
      calls.map Call.unstamped =
        ((collaborators cluster).transcript other world).2.map Call.unstamped) ∧
    (∀ (alike : κ → κ → Prop) (other : BuildEvent) (twin : World κ), cluster.Blind alike →
      event.Agrees other → world.Twins alike twin → ∀ id,
        run.1.map (·.map (LaunchOutcome.withId id)) =
          (twin.launch cluster other).1.map (·.map (LaunchOutcome.withId id)) ∧
        run.2.Twins alike (twin.launch cluster other).2 ∧
        calls.map (fun call => (call.withId id).unstamped) =
          ((collaborators cluster).transcript other twin).2.map
            (fun call => (call.withId id).unstamped)) ∧
    (∀ events, launchAll cluster events world =
      launchAll cluster (events.map BuildEvent.trigger) world) ∧
    ∀ operations (launch : LaunchAt κ) (id old : BuildId),
      world.ids = {} → world.queue = .empty → (∀ operation ∈ operations, operation.Anonymous) →
      .launching launch ∈ world.deeds cluster operations →
      launch.world.ids.given.length < twoTo 74 →
      launch.result cluster = some (.ok (.launched id)) → launch.event.id = some old → id ≠ old := by
  intro run calls record
  refine ⟨fun id h => ⟨identities_of_launched h, fun contender hc => ⟨?_, ?_⟩⟩, ?_, ?_, ?_, ?_⟩
  · intro other name hd
    exact (lockName_of_deferred hd).1.trans hc.lockName_eq.symm
  · intro nanos later hl hq
    exact deferred_while_live h hc hl hq
  · exact fun other hab => launch_same hab world
  · exact fun alike other twin hb hab ht id => launch_twins hab hb ht id
  · exact fun events => launchAll_trigger cluster events world
  · intro operations launch id old hi hq ho hm hroom hid hold he
    obtain ⟨hcounted, hissued⟩ := (Issued.of_start hi hq).of_mem_deeds ho hm
    obtain ⟨spec, build, identities⟩ := identities_of_launched hid
    exact identities.fresh hcounted hroom (he ▸ hissued old hold)

/-- A deferred build is launched beside a sidecar that claims to be the build container. A launch of
the same build is then deferred; a new trigger would have been launched alike, and so would it in a
world that has given out no identifier yet. In a run of its own, a build is deferred and later
launched under another identifier. -/
theorem launch_identities_of_resubmission :
    let impostor := "\x7b\"name\": \"build-server\", \"image\": \"other\"\x7d"
    let project : Project :=
      { team := "acme", name := "widgets", descriptor := { image := "builder" },
        sidecars := [impostor] }
    let start := Crew.sampleWorld []
    let supply : IdSupply := {}
    let old := (supply.next 5).1
    let world : World Recorder := { start with catalog := ⟨[project]⟩, ids := (supply.next 5).2 }
    let event : BuildEvent :=
      { Crew.sampleEvent with id := some old, deferredAt := some (Instant.ofNanos 7) }
    let record := world.lockRecord event
    let later := (world.launch Recorder.cluster event).2.wait 1000
    let twin : World Recorder := { world with ids := supply }
    let triggered := start.perform Recorder.cluster (.launch Crew.sampleEvent)
    let waiting := start.performAll Recorder.cluster
      [.launch Crew.sampleEvent, .launch Crew.sampleEvent, .wait 2000000]
    let entry : BuildEvent := { Crew.sampleEvent with
      id := some triggered.mint.1, deferredAt := some triggered.now }
    let resubmitted : LaunchAt Recorder := ⟨entry, waiting.pollDeferred.2⟩
    (world.launch Recorder.cluster event).1 = some (.ok (.launched world.mint.1)) ∧
    (∃ spec build,
      Identities Recorder.cluster event world world.mint.1 record spec build) ∧
    old ∈ world.ids.given ∧ world.mint.1 ≠ old ∧
    event.Agrees event.trigger ∧
    (later.launch Recorder.cluster event.trigger).1 = some (.ok (.deferred record.name)) ∧
    world.launch Recorder.cluster event = world.launch Recorder.cluster event.trigger ∧
    (world.launch Recorder.cluster event).2.Twins Recorder.Twins
      (twin.launch Recorder.cluster event.trigger).2 ∧
    resubmitted.result Recorder.cluster = some (.ok (.launched resubmitted.world.mint.1)) ∧
    resubmitted.world.mint.1 ≠ triggered.mint.1 := by
  intro impostor project start supply old world event record later twin triggered waiting entry
    resubmitted
  have hlaunched : (world.launch Recorder.cluster event).1 =
      some (.ok (.launched world.mint.1)) := by
    decide +kernel
  obtain ⟨hidentities, hsame, htwins, -, -⟩ := launch_identities Recorder.cluster event world
  obtain ⟨-, -, -, -, hruns⟩ := launch_identities Recorder.cluster event start
  obtain ⟨⟨spec, build, identities⟩, hcontenders⟩ := hidentities _ hlaunched
  have hcounted : world.ids.Counted := IdSupply.counted_new.next 5
  have hold : old ∈ world.ids.given := List.mem_cons_self
  have hfresh : world.mint.1 ≠ old := fun he =>
    identities.fresh hcounted (by decide +kernel) (he ▸ hold)
  have hagrees : event.Agrees event.trigger := event.agrees_trigger
  have htwin : world.Twins Recorder.Twins twin :=
    .intro world supply world.cluster.twins_refl fun _ => rfl
  have hpolled : waiting.polled = [entry] := by decide +kernel
  have hresult : resubmitted.result Recorder.cluster =
      some (.ok (.launched resubmitted.world.mint.1)) := by
    decide +kernel
  have hm : .launching resubmitted ∈ start.deeds Recorder.cluster
      [.launch Crew.sampleEvent, .launch Crew.sampleEvent, .wait 2000000, .relaunch] := by
    have hpass : waiting.resubmissions Recorder.cluster = [resubmitted] := by
      rw [resubmissions, hpolled, launches, hresult, launches]
    have hlast : .launching resubmitted ∈ waiting.deeds Recorder.cluster [.relaunch] := by
      rw [deeds, deedsOf, hpass]
      exact List.mem_cons_self
    exact List.mem_cons_of_mem _ (List.mem_cons_of_mem _ hlast)
  refine ⟨hlaunched, ⟨spec, build, identities⟩, hold, hfresh, hagrees, ?_, (hsame _ hagrees).1,
    (htwins Recorder.Twins _ twin Recorder.blind_cluster hagrees htwin old).2.1, hresult, ?_⟩
  · have hfits : later.ttl.Fits later.now := by decide +kernel
    have hdeferred := (hcontenders _ hagrees).2 1000 (by decide +kernel) (by decide +kernel)
    exact hdeferred.trans (if_pos hfits)
  · exact hruns _ resubmitted _ _ rfl rfl (by simp [Operation.Anonymous, Crew.sampleEvent]) hm
      (by decide +kernel) hresult rfl

end World

end BuildScheduler
