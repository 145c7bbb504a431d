import BuildScheduler.Proofs.Identifiers
import BuildScheduler.Proofs.Runs.LockNames

/-!
# Identifiers over whole runs

Every identifier in the queue was given out by the supply, and the supply takes none back. So a
deferred build, whenever it is resubmitted, comes with an identifier that its launch cannot mint.
-/

namespace BuildScheduler

/-- What is triggered from outside has no identifier. -/
def Operation.Anonymous : Operation → Prop
  | .launch event => event.id = none
  | .defer event => event.id = none
  | _ => True

def BuildEvent.Issued (ids : IdSupply) (event : BuildEvent) : Prop :=
  ∀ id, event.id = some id → id ∈ ids.given

theorem BuildEvent.issued_of_none {event : BuildEvent} (h : event.id = none) (ids : IdSupply) :
    event.Issued ids := by
  intro id hid
  cases h.symm.trans hid

namespace World

/-- The supply counts, has given out what is known of it and what is queued. -/
structure Issued (known : List BuildId) (world : World κ) : Prop where
  counted : world.ids.Counted
  given : ∀ id ∈ known, id ∈ world.ids.given
  queued : ∀ entry ∈ world.queue.entries, entry.Issued world.ids

namespace Issued

variable {cluster : Cluster κ} {known : List BuildId} {world after : World κ}

theorem of_start (hi : world.ids = {}) (hq : world.queue = .empty) : world.Issued [] := by
  refine ⟨hi ▸ IdSupply.counted_new, List.forall_mem_nil _, ?_⟩
  rw [hq]
  exact List.forall_mem_nil _

/-- Only the supply and the queue matter. -/
theorem congr (h : world.Issued known) (hi : after.ids = world.ids)
    (hq : after.queue = world.queue) : after.Issued known :=
  ⟨hi ▸ h.counted, hi ▸ h.given, hi ▸ hq ▸ h.queued⟩

theorem mint (h : world.Issued known) : world.mint.2.Issued known where
  counted := h.counted.next _
  given id hm := List.mem_cons_of_mem _ (h.given id hm)
  queued entry hm id hid := List.mem_cons_of_mem _ (h.queued entry hm id hid)

theorem putLock (h : world.Issued known) (record : LockRecord) (now : Instant) :
    (world.putLock record now).2.Issued known := by
  obtain ⟨locks, outages, hput⟩ := putLock_frame record now world
  rw [hput]
  exact h.congr rfl rfl

theorem deleteLock (h : world.Issued known) (name : String) :
    (world.deleteLock name).2.Issued known := by
  obtain ⟨locks, outages, hdelete⟩ := deleteLock_frame name world
  rw [hdelete]
  exact h.congr rfl rfl

theorem deferBuild (h : world.Issued known) {event : BuildEvent} (he : event.Issued world.ids) :
    (world.deferBuild event).2.Issued known := by
  unfold World.deferBuild
  rcases world.queueOutages.defer.next with ⟨failure, defer⟩
  cases failure with
  | some reason => exact h.congr rfl rfl
  | none =>
      refine ⟨h.counted, h.given, fun entry hm => ?_⟩
      change entry ∈ (world.queue.defer event _).entries at hm
      unfold DeferralQueue.defer at hm
      split at hm
      · exact h.queued entry hm
      · obtain hm | hm := List.mem_append.1 hm
        · exact h.queued entry hm
        · rw [List.mem_singleton.1 hm]
          exact he

/-- A launch queues its event under the identifier that it mints. -/
theorem launch (h : world.Issued known) (event : BuildEvent) :
    (world.launch cluster event).2.Issued known := by
  have hx := (collaborators cluster).launch_exit event world
  rw [← launch_eq_collaborators] at hx
  generalize (world.launch cluster event).1 = result at hx
  generalize (world.launch cluster event).2 = after at hx ⊢
  generalize ((collaborators cluster).transcript event world).2 = calls at hx
  let identified := (collaborators cluster).identified event world
  have htried : ((collaborators cluster).tried event world).2.Issued (world.mint.1 :: known) := by
    refine putLock ?_ _ _
    exact ⟨h.mint.counted, List.forall_mem_cons.2 ⟨List.mem_cons_self, h.mint.given⟩, h.mint.queued⟩
  have hknown : ((collaborators cluster).tried event world).2.Issued known :=
    ⟨htried.counted, fun id hm => htried.given id (List.mem_cons_of_mem _ hm), htried.queued⟩
  have hevent : identified.Issued ((collaborators cluster).tried event world).2.ids := by
    intro id hid
    cases hid
    exact htried.given _ List.mem_cons_self
  cases hx with
  | closed => exact h
  | unknown => exact h
  | unmanaged => exact h
  | panicked => exact h.mint
  | deferred => exact hknown.deferBuild hevent
  | undeferred => exact hknown.deferBuild hevent
  | launched => exact hknown.congr rfl rfl
  | uncreated project =>
      have hleft : ((collaborators cluster).submission event world project).2.Issued known :=
        hknown.congr rfl rfl
      exact hleft.deleteLock event.lockName

theorem pollDeferred (h : world.Issued known) : world.pollDeferred.2.Issued known := by
  unfold World.pollDeferred
  rcases world.queueOutages.poll.next with ⟨failure, poll⟩
  cases failure with
  | some reason => exact h.congr rfl rfl
  | none => exact ⟨h.counted, h.given, List.forall_mem_nil _⟩

theorem clearDeferred (h : world.Issued known) (name : String) :
    (world.clearDeferred name).2.Issued known := by
  unfold World.clearDeferred
  rcases world.queueOutages.remove.next with ⟨failure, remove⟩
  cases failure with
  | some reason => exact h.congr rfl rfl
  | none =>
      exact ⟨h.counted, h.given, fun entry hm => h.queued entry (List.mem_filter.1 hm).1⟩

theorem release (h : world.Issued known) (event : BuildEvent) :
    (world.release event).2.Issued known := h.deleteLock event.lockName

theorem perform (h : world.Issued known) {operation : Operation} (ho : operation.Anonymous) :
    (world.perform cluster operation).Issued known := by
  cases operation with
  | launch event => exact h.launch event
  | relaunch =>
      have series := series_relaunchDeferred cluster world
      exact (series.keeps (fun event _ _ hw => hw.launch event) h.pollDeferred).2
  | defer event => exact h.deferBuild (BuildEvent.issued_of_none ho _)
  | clear name => exact h.clearDeferred name
  | release event => exact h.release event
  | _ => exact h.congr rfl rfl

/-- The events of a pass come with identifiers that were given out before it. -/
theorem of_mem_resubmissions (h : world.Issued known) {launch : LaunchAt κ}
    (hm : launch ∈ world.resubmissions cluster) :
    launch.world.ids.Counted ∧ launch.event.Issued launch.world.ids := by
  have hown : world.Issued world.ids.given := ⟨h.counted, fun _ hg => hg, h.queued⟩
  have series := series_relaunchDeferred cluster world
  have hmet := (series.keeps (fun event _ _ hw => hw.launch event) hown.pollDeferred).1 launch hm
  have hpolled : launch.event ∈ world.polled := series.event_mem hm
  refine ⟨hmet.counted, fun id hid => hmet.given id ?_⟩
  obtain ⟨hp, -⟩ | ⟨hp, -⟩ := lockNames_pollDeferred world
  · exact h.queued launch.event (hp ▸ hpolled) id hid
  · rw [hp] at hpolled
    cases hpolled

/-- Every launch of a run meets a supply that has given out the identifier of its event. -/
theorem of_mem_deeds (h : world.Issued known) {operations : List Operation}
    (ho : ∀ operation ∈ operations, operation.Anonymous) {launch : LaunchAt κ}
    (hm : .launching launch ∈ world.deeds cluster operations) :
    launch.world.ids.Counted ∧ launch.event.Issued launch.world.ids := by
  induction operations generalizing world with
  | nil => cases hm
  | cons operation rest ih =>
      rw [List.forall_mem_cons] at ho
      obtain hm | hm := List.mem_append.1 hm
      · cases operation with
        | launch event =>
            obtain rfl := Deed.launching.inj (List.mem_singleton.1 hm)
            exact ⟨h.counted, BuildEvent.issued_of_none ho.1 _⟩
        | relaunch =>
            obtain ⟨other, hl, hd⟩ := List.mem_map.1 hm
            obtain rfl := Deed.launching.inj hd
            exact h.of_mem_resubmissions hl
        | release event => cases List.mem_singleton.1 hm
        | _ => cases hm
      · exact ih (h.perform ho.1) ho.2 hm

end Issued

end World

end BuildScheduler
