import BuildScheduler.Proofs.Launch.Course

/-!
# The launches of a pass

A launch together with the world that it meets has a result, unless it panics, a world that it
leaves and calls that it makes. A pass makes one launch for each event that it took out of the
queue, in order, up to one that panics. `Series` says once how a pass goes on.
-/

namespace BuildScheduler

/-- A launch of an event in the world that it meets. -/
structure LaunchAt (κ : Type) where
  event : BuildEvent
  world : World κ

namespace LaunchAt

variable (cluster : Cluster κ) (launch : LaunchAt κ)

def result : Option (Result LaunchOutcome) := (launch.world.launch cluster launch.event).1

def after : World κ := (launch.world.launch cluster launch.event).2

def calls : List Call :=
  ((World.collaborators cluster).transcript launch.event launch.world).2

def isLaunched : Bool :=
  match launch.result cluster with
  | some (.ok outcome) => outcome.isLaunched
  | _ => false

def AcquiredAt (time : Instant) : Prop :=
  ∃ record, Call.put record time (.ok true) ∈ launch.calls cluster

/-- The launch took its lock, and then its pod was not created. -/
def Uncreated : Prop :=
  (∃ time, launch.AcquiredAt cluster time) ∧
    ∃ spec error, Call.create spec (.error error) ∈ launch.calls cluster

def Submits : Prop := ∃ spec answer, Call.create spec answer ∈ launch.calls cluster

def Releases : Prop := ∃ answer, Call.delete launch.event.lockName answer ∈ launch.calls cluster

theorem course (h : launch.world.Answering) :
    World.Course cluster launch.event launch.world (launch.result cluster)
      (launch.after cluster) (launch.calls cluster) := World.launch_course cluster launch.event h

end LaunchAt

namespace World

/-! ## Launches one after another -/

section Launches

variable (cluster : Cluster κ)

/-- The launches of some events, one after another; one that panics is the last. -/
def launches : List BuildEvent → World κ → List (LaunchAt κ)
  | [], _ => []
  | event :: rest, world =>
      let launch : LaunchAt κ := ⟨event, world⟩
      match launch.result cluster with
      | none => [launch]
      | some _ => launch :: launches rest (launch.after cluster)

/-- The launches of some events, how many of them launched a build, and the world that they
leave. -/
inductive Series : List BuildEvent → World κ → List (LaunchAt κ) → Option Nat → World κ → Prop where
  | done (world : World κ) : Series [] world [] (some 0) world
  | panicked (event : BuildEvent) (rest : List BuildEvent) (world : World κ)
      (hr : LaunchAt.result cluster ⟨event, world⟩ = none) :
      Series (event :: rest) world [⟨event, world⟩] none (LaunchAt.after cluster ⟨event, world⟩)
  | next (event : BuildEvent) {rest : List BuildEvent} {world after : World κ}
      {launches : List (LaunchAt κ)} {count : Option Nat}
      (hr : (LaunchAt.result cluster ⟨event, world⟩).isSome = true)
      (series : Series rest (LaunchAt.after cluster ⟨event, world⟩) launches count after) :
      Series (event :: rest) world (⟨event, world⟩ :: launches)
        (count.map (· + (LaunchAt.isLaunched cluster ⟨event, world⟩).toNat)) after

theorem launchAll_of_panicked {event : BuildEvent} {world : World κ}
    (h : (world.launch cluster event).1 = none) (rest : List BuildEvent) :
    launchAll cluster (event :: rest) world = (none, (world.launch cluster event).2) := by
  rcases hl : world.launch cluster event with ⟨ending, after⟩
  rw [hl] at h
  cases h
  simp only [launchAll, hl]

theorem launchAll_of_result {event : BuildEvent} {world : World κ}
    (h : (world.launch cluster event).1.isSome = true) (rest : List BuildEvent) :
    launchAll cluster (event :: rest) world =
      ((launchAll cluster rest (world.launch cluster event).2).1.map
        (· + (LaunchAt.isLaunched cluster ⟨event, world⟩).toNat),
        (launchAll cluster rest (world.launch cluster event).2).2) := by
  simp only [LaunchAt.isLaunched, LaunchAt.result]
  rcases hl : world.launch cluster event with ⟨ending, after⟩
  rw [hl] at h
  cases ending with
  | none => cases h
  | some result =>
      simp only [launchAll, hl]
      cases result with
      | ok outcome => rfl
      | error error => rfl

theorem series_launchAll (events : List BuildEvent) (world : World κ) :
    Series cluster events world (world.launches cluster events)
      (launchAll cluster events world).1 (launchAll cluster events world).2 := by
  induction events generalizing world with
  | nil => exact .done world
  | cons event rest ih =>
      cases hr : LaunchAt.result cluster ⟨event, world⟩ with
      | none =>
          rw [launchAll_of_panicked cluster hr, launches, hr]
          exact .panicked event rest world hr
      | some result =>
          have hs := Option.isSome_of_eq_some hr
          rw [launchAll_of_result cluster hs, launches, hr]
          exact .next event hs (ih _)

end Launches

namespace Series

variable {cluster : Cluster κ} {events : List BuildEvent} {world after : World κ}
  {launches : List (LaunchAt κ)} {count : Option Nat}
  (series : Series cluster events world launches count after)

include series

/-- The events are launched in their order. -/
theorem events_extend : launches.map LaunchAt.event <+: events := by
  induction series with
  | done => exact List.nil_prefix
  | panicked event rest world => exact List.cons_prefix_cons.2 ⟨rfl, List.nil_prefix⟩
  | next event _ _ ih => exact List.cons_prefix_cons.2 ⟨rfl, ih⟩

theorem event_mem {launch : LaunchAt κ} (hm : launch ∈ launches) : launch.event ∈ events :=
  series.events_extend.subset (List.mem_map_of_mem hm)

theorem isSome_iff :
    count.isSome = true ↔ ∀ launch ∈ launches, (launch.result cluster).isSome = true := by
  induction series with
  | done => exact iff_of_true rfl (List.forall_mem_nil _)
  | panicked event rest world hr =>
      rw [List.forall_mem_singleton, hr]
      exact Iff.rfl
  | next event hr _ ih =>
      rw [Option.isSome_map, List.forall_mem_cons, ih]
      exact (and_iff_right hr).symm

/-- When no launch panics, all events are launched and the builds counted. -/
theorem of_isSome (h : count.isSome = true) : launches.map LaunchAt.event = events ∧
    count = some (launches.countP (LaunchAt.isLaunched cluster)) := by
  induction series with
  | done => exact ⟨rfl, rfl⟩
  | panicked => cases h
  | next event hr _ ih =>
      rw [Option.isSome_map] at h
      obtain ⟨hevents, hcount⟩ := ih h
      rw [List.map_cons, hevents, hcount, List.countP_cons, Option.map_some]
      exact ⟨rfl, congrArg some (congrArg _ (Bool.cond_eq_ite _ _ _))⟩

/-- What every launch of some events keeps holds in every world that one of them meets, and in the
world that they leave. -/
theorem keeps {kept : World κ → Prop}
    (hk : ∀ event ∈ events, ∀ world, kept world → kept (world.launch cluster event).2)
    (h : kept world) : (∀ launch ∈ launches, kept launch.world) ∧ kept after := by
  induction series with
  | done => exact ⟨List.forall_mem_nil _, h⟩
  | panicked event rest world =>
      exact ⟨List.forall_mem_singleton.2 h, hk event List.mem_cons_self world h⟩
  | @next event rest world after launches count hr series ih =>
      obtain ⟨hmet, hleft⟩ := ih (fun other hm => hk other (List.mem_cons_of_mem _ hm))
        (hk event List.mem_cons_self world h)
      exact ⟨List.forall_mem_cons.2 ⟨h, hmet⟩, hleft⟩

end Series

/-! ## A pass -/

def polled (world : World κ) : List BuildEvent :=
  match world.pollDeferred.1 with
  | .ok events => events
  | .error _ => []

def resubmissions (cluster : Cluster κ) (world : World κ) : List (LaunchAt κ) :=
  world.pollDeferred.2.launches cluster world.polled

/-- A poll writes the queue and the outages of polls, and nothing else. -/
theorem pollDeferred_leaves (world : World κ) : ∃ queue, world.pollDeferred.2 =
    { world with
      queue
      queueOutages := { world.queueOutages with poll := world.queueOutages.poll.next.2 } } := by
  unfold pollDeferred
  rcases world.queueOutages.poll.next with ⟨failure, poll⟩
  cases failure with
  | some reason => exact ⟨world.queue, rfl⟩
  | none => exact ⟨world.queue.poll.2, rfl⟩

section Passes

variable {cluster : Cluster κ} {events : List BuildEvent} {world : World κ}

/-- A pass launches what it polled. -/
theorem relaunchDeferred_eq (cluster : Cluster κ) (world : World κ) :
    world.relaunchDeferred cluster = launchAll cluster world.polled world.pollDeferred.2 := by
  unfold relaunchDeferred polled
  rcases world.pollDeferred with ⟨answer, after⟩
  cases answer with
  | ok events => rfl
  | error error => rfl

theorem series_relaunchDeferred (cluster : Cluster κ) (world : World κ) :
    Series cluster world.polled world.pollDeferred.2 (world.resubmissions cluster)
      (world.relaunchDeferred cluster).1 (world.relaunchDeferred cluster).2 := by
  rw [relaunchDeferred_eq]
  exact series_launchAll cluster _ _

theorem Answering.launch (h : world.Answering) (event : BuildEvent) :
    (world.launch cluster event).2.Answering := (launch_course cluster event h).answering h

theorem Answering.pollDeferred (h : world.Answering) : world.pollDeferred.2.Answering := by
  rw [h.pollDeferred_eq]
  exact ⟨h.locks, h.queue⟩

end Passes

end World

end BuildScheduler
