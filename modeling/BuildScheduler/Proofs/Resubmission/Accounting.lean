import BuildScheduler.Proofs.Resubmission.Launches

/-!
# What becomes of deferred builds

A pass takes every deferred build out of the queue before it launches the first one. While the
gate is open each of them is accounted for when the pass returns; a closed gate lets all of them
go. `relaunch_accounts_iff` says that this is the only way in which a pass that returns loses a
build.
-/

namespace BuildScheduler

namespace World

def CreatesPod (cluster : Cluster κ) (event : BuildEvent) (met : World κ) : Prop :=
  ∃ spec, spec.lockName? = some event.lockName ∧
    Call.create spec (.ok ()) ∈ ((collaborators cluster).transcript event met).2

/-- What became of an event that was launched in the world `met`, seen from the world `final`. -/
inductive Accounted (cluster : Cluster κ) (event : BuildEvent) (met final : World κ) : Prop where
  | created (h : CreatesPod cluster event met)
  | unknown
      (h : (met.launch cluster event).1 = some (.error (.projectNotFound event.projectKey)))
  | unmanaged
      (h : (met.launch cluster event).1 =
        some (.error (.refNotManaged event.projectKey event.ref)))
  | failed (id : BuildId) (cause : Error)
      (h : (met.launch cluster event).1 = some (.ok (.failed id cause)))
  | queued (h : event.lockName ∈ final.queue.lockNames)

/-! ## One launch -/

section Launches

variable {cluster : Cluster κ} {event : BuildEvent} {world : World κ}

theorem lockName_mem_deferBuild {event : BuildEvent} {world : World κ}
    (h : (world.deferBuild event).1 = .ok ()) :
    event.lockName ∈ (world.deferBuild event).2.queue.lockNames := by
  revert h
  unfold deferBuild
  rcases world.queueOutages.defer.next with ⟨failure, defer⟩
  cases failure with
  | some reason => intro h; cases h
  | none => exact fun _ => DeferralQueue.mem_lockNames_defer.2 (.inr rfl)

/-- With an open gate every launch that ends with a result accounts for its event at once. -/
theorem accounted_of_open (ho : world.gate.isOpen = true)
    (hs : (world.launch cluster event).1.isSome = true) :
    Accounted cluster event world (world.launch cluster event).2 := by
  have hx := (collaborators cluster).launch_exit event world
  rw [← launch_eq_collaborators] at hx
  generalize hr : (world.launch cluster event).1 = result at hx hs
  generalize ha : (world.launch cluster event).2 = after at hx
  generalize hc : ((collaborators cluster).transcript event world).2 = calls at hx
  cases hx with
  | closed hg => exact absurd (ho.symm.trans hg) Bool.noConfusion
  | unknown => exact .unknown hr
  | unmanaged => exact .unmanaged hr
  | panicked => cases hs
  | deferred project had hf hw hd => exact .queued (lockName_mem_deferBuild hd)
  | undeferred project error => exact .failed _ _ hr
  | launched project =>
      refine .created ⟨(collaborators cluster).podFor event world project, ?_, ?_⟩
      · exact PodTemplate.lockName?_buildPod _ _ _ _
      · rw [hc]
        exact List.mem_cons_of_mem _ (List.mem_singleton_self _)
  | uncreated project error => exact .failed _ _ hr

theorem launch_of_closed (hc : world.gate.isOpen = false) :
    world.launch cluster event = (some (.ok .queueClosed), world) :=
  Site.launch_of_closed (site cluster) hc

/-- With a closed gate no launch does. -/
theorem not_accounted_of_closed {final : World κ} (hc : world.gate.isOpen = false)
    (hq : event.lockName ∉ final.queue.lockNames) : ¬ Accounted cluster event world final := by
  have hl : (world.launch cluster event).1 = some (.ok .queueClosed) := by
    rw [launch_of_closed hc]
  intro ha
  cases ha with
  | created h =>
      obtain ⟨spec, _, hm⟩ := h
      rw [Collaborators.transcript, Collaborators.recorded_of_closed _ [] hc] at hm
      cases hm
  | unknown h => rw [hl] at h; cases h
  | unmanaged h => rw [hl] at h; cases h
  | failed id cause h => rw [hl] at h; cases h
  | queued h => exact hq h

end Launches

/-! ## A pass -/

section Passes

variable (cluster : Cluster κ)

/-- Launches that all end with a result go on from one to the next. -/
theorem launchAll_append {before after : List BuildEvent} {world : World κ}
    (h : (launchAll cluster (before ++ after) world).1.isSome = true) :
    (launchAll cluster after (launchAll cluster before world).2).1.isSome = true ∧
      (launchAll cluster (before ++ after) world).2 =
        (launchAll cluster after (launchAll cluster before world).2).2 := by
  induction before generalizing world with
  | nil => exact ⟨h, rfl⟩
  | cons event rest ih =>
      rw [List.cons_append] at h ⊢
      cases hl : (world.launch cluster event).1 with
      | none =>
          rw [launchAll_of_panicked cluster hl] at h
          cases h
      | some result =>
          have hs := Option.isSome_of_eq_some hl
          rw [launchAll_of_result cluster hs, Option.isSome_map] at h
          rw [launchAll_of_result cluster hs, launchAll_of_result cluster hs]
          exact ih h

theorem gate_launchAll (events : List BuildEvent) (world : World κ) :
    (launchAll cluster events world).2.gate = world.gate := by
  let kept (after : World κ) : Prop := after.gate = world.gate
  have hk : ∀ event ∈ events, ∀ after, kept after → kept (after.launch cluster event).2 :=
    fun event _ after h => (gate_launch cluster event after).trans h
  exact ((series_launchAll cluster events world).keeps hk rfl).2

theorem queued_launchAll (events : List BuildEvent) (world : World κ) {name : String}
    (h : name ∈ world.queue.lockNames) :
    name ∈ (launchAll cluster events world).2.queue.lockNames := by
  let kept (after : World κ) : Prop := name ∈ after.queue.lockNames
  have hk : ∀ event ∈ events, ∀ after, kept after → kept (after.launch cluster event).2 :=
    fun event _ after h => queued_launch cluster event after h
  exact ((series_launchAll cluster events world).keeps hk h).2

theorem launchAll_of_closed (events : List BuildEvent) (world : World κ)
    (hc : world.gate.isOpen = false) : launchAll cluster events world = (some 0, world) := by
  induction events with
  | nil => rfl
  | cons event rest ih =>
      simp only [launchAll, launch_of_closed hc, ih]
      rfl

theorem gate_pollDeferred (world : World κ) : world.pollDeferred.2.gate = world.gate := by
  obtain ⟨queue, h⟩ := world.pollDeferred_leaves
  rw [h]

/-- A poll takes everything out, or fails and takes nothing out. -/
theorem lockNames_pollDeferred (world : World κ) :
    world.polled = world.queue.entries ∧ world.pollDeferred.2.queue.lockNames = [] ∨
      world.polled = [] ∧ world.pollDeferred.2.queue.lockNames = world.queue.lockNames := by
  unfold polled pollDeferred
  rcases world.queueOutages.poll.next with ⟨failure, poll⟩
  cases failure with
  | some reason => exact .inr ⟨rfl, rfl⟩
  | none => exact .inl ⟨rfl, rfl⟩

theorem relaunchDeferred_of_closed (world : World κ) (hc : world.gate.isOpen = false) :
    world.relaunchDeferred cluster = (some 0, world.pollDeferred.2) := by
  have hp : world.pollDeferred.2.gate.isOpen = false := by rw [gate_pollDeferred, hc]
  rw [relaunchDeferred_eq, launchAll_of_closed cluster _ _ hp]

/-- With an open gate what was accounted for by its launch stays so to the end of a pass that
returns. -/
theorem relaunch_accounts_of_open (world : World κ) (ho : world.gate.isOpen = true)
    (hr : (world.relaunchDeferred cluster).1.isSome = true)
    (before : List BuildEvent) (event : BuildEvent) (after : List BuildEvent)
    (hp : world.polled = before ++ event :: after) :
    Accounted cluster event (launchAll cluster before world.pollDeferred.2).2
      (world.relaunchDeferred cluster).2 := by
  have hg : (launchAll cluster before world.pollDeferred.2).2.gate.isOpen = true := by
    rw [gate_launchAll, gate_pollDeferred, ho]
  rw [relaunchDeferred_eq, hp] at hr ⊢
  obtain ⟨hr, hfinal⟩ := launchAll_append cluster hr
  rw [hfinal]
  generalize (launchAll cluster before world.pollDeferred.2).2 = met at hg hr ⊢
  cases hl : (met.launch cluster event).1 with
  | none =>
      rw [launchAll_of_panicked cluster hl] at hr
      cases hr
  | some result =>
      have hs := Option.isSome_of_eq_some hl
      rw [launchAll_of_result cluster hs]
      cases accounted_of_open hg hs with
      | created h => exact .created h
      | unknown h => exact .unknown h
      | unmanaged h => exact .unmanaged h
      | failed id cause h => exact .failed id cause h
      | queued h => exact .queued (queued_launchAll cluster after _ h)

/-- A pass that returns accounts for all that it took out of the queue if and only if the gate is
open or there was nothing to take. With a closed gate it launches nothing, and the queue keeps its
lock names only if there were none. -/
theorem relaunch_accounts_iff (world : World κ) :
    ((world.relaunchDeferred cluster).1.isSome = true →
      ((∀ before event after, world.polled = before ++ event :: after →
        Accounted cluster event (launchAll cluster before world.pollDeferred.2).2
          (world.relaunchDeferred cluster).2) ↔
        world.gate.isOpen = true ∨ world.polled = [])) ∧
    (world.gate.isOpen = false →
      (world.relaunchDeferred cluster).1 = some 0 ∧
      ((world.relaunchDeferred cluster).2.queue.lockNames = world.queue.lockNames ↔
        world.polled = [])) := by
  refine ⟨fun hr => ⟨?_, ?_⟩, ?_⟩
  · intro hall
    cases hg : world.gate.isOpen with
    | true => exact .inl rfl
    | false =>
        right
        cases hp : world.polled with
        | nil => rfl
        | cons event rest =>
            -- the first event of the pass meets the closed gate with an empty queue behind it
            have ha := hall [] event rest hp
            rw [relaunchDeferred_of_closed cluster world hg] at ha
            have hc : world.pollDeferred.2.gate.isOpen = false := by rw [gate_pollDeferred, hg]
            have hq : event.lockName ∉ world.pollDeferred.2.queue.lockNames := by
              obtain ⟨_, hn⟩ | ⟨he, _⟩ := lockNames_pollDeferred world
              · rw [hn]
                exact List.not_mem_nil
              · rw [hp] at he
                cases he
            exact absurd ha (not_accounted_of_closed hc hq)
  · intro h before event after hp
    obtain ho | he := h
    · exact relaunch_accounts_of_open cluster world ho hr before event after hp
    · rw [he] at hp
      cases before with
      | nil => cases hp
      | cons first rest => cases hp
  · intro hg
    rw [relaunchDeferred_of_closed cluster world hg]
    refine ⟨rfl, ?_⟩
    obtain ⟨hp, hn⟩ | ⟨hp, hn⟩ := lockNames_pollDeferred world
    · rw [hp, hn]
      unfold DeferralQueue.lockNames
      rw [eq_comm, List.map_eq_nil_iff]
    · simp [hp, hn]

end Passes

end World

end BuildScheduler
