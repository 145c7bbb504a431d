import BuildScheduler.Proofs.Concurrency.Crew
import BuildScheduler.Proofs.Identifiers
import BuildScheduler.Proofs.Locks.Answers
import BuildScheduler.Proofs.Resubmission.Launches

/-!
# The effect of a pass

With an open gate a pass launches the deferred builds in their order. An admitted build goes back
to the queue if its lock is live when its launch reads the clock, and is submitted to the cluster
otherwise. `relaunch_effect` says this of every pass that returns, together with its count, and
that a pass returns unless some lock that it asks for would end after the calendar.
-/

namespace BuildScheduler

def Call.creates : Call → Bool
  | .create _ (.ok ()) => true
  | _ => false

namespace LaunchAt

variable (cluster : Cluster κ) (launch : LaunchAt κ)

def waits : Bool :=
  launch.world.admits launch.event &&
    launch.world.locks.isHeld launch.event.lockName launch.world.now

def entry : BuildEvent :=
  { launch.event with id := some launch.world.mint.1, deferredAt := some launch.world.now }

/-- The calls of a launch, each with the clock that it was made at. -/
def timedCalls : List (Instant × Call) :=
  (((World.collaborators cluster).recorded fun world call => (world.now, call)).site.launch
    launch.event (launch.world, [])).2.2

@[simp] theorem lockName_entry : launch.entry.lockName = launch.event.lockName := rfl

theorem map_snd_timedCalls : (launch.timedCalls cluster).map Prod.snd = launch.calls cluster :=
  ((World.collaborators cluster).log_recorded (fun world call => (world.now, call)) Prod.snd
    (.requested launch.event) launch.world []).symm

end LaunchAt

namespace World

/-! ## One launch -/

section Courses

variable {cluster : Cluster κ} {event : BuildEvent} {world after : World κ}
  {ending : Option (Result LaunchOutcome)} {calls : List Call}
  (course : Course cluster event world ending after calls)

include course

theorem Course.eq_none_iff :
    ending = none ↔ world.admits event = true ∧ ¬ world.ttl.Fits world.now := by
  cases course with
  | turnedAway result ha => simp [ha]
  | panicked ha hf => exact iff_of_true rfl ⟨ha, hf⟩
  | deferred ha hf => exact iff_of_false nofun fun h => h.2 hf
  | launched project ha hp hf => exact iff_of_false nofun fun h => h.2 hf
  | uncreated project error ha hp hf => exact iff_of_false nofun fun h => h.2 hf

theorem Course.countP_creates :
    calls.countP Call.creates =
      (match ending with
        | some (.ok outcome) => outcome.isLaunched
        | _ => false).toNat := by
  cases course with
  | turnedAway result ha hr =>
      cases result with
      | ok outcome => simp [hr outcome rfl]
      | error error => rfl
  | panicked => rfl
  | deferred => rfl
  | launched => rfl
  | uncreated => rfl

/-- A launch that finds its lock live queues its event and does nothing else. -/
theorem Course.eq_requeued (ha : world.admits event = true)
    (hh : world.locks.isHeld event.lockName world.now = true) (hs : ending.isSome = true) :
    after = world.requeued event := by
  cases course with
  | turnedAway result hn => cases ha.symm.trans hn
  | panicked => cases hs
  | deferred => rfl
  | launched project _ _ _ hf => cases hh.symm.trans hf
  | uncreated project error _ _ _ hf => cases hh.symm.trans hf

/-- Any other launch leaves the queue. -/
theorem Course.queue_eq
    (h : (world.admits event && world.locks.isHeld event.lockName world.now) = false) :
    after.queue = world.queue := by
  cases course with
  | turnedAway => rfl
  | panicked => rfl
  | deferred ha hf hh => simp [ha, hh] at h
  | launched => rfl
  | uncreated => rfl

/-- A launch gives out one identifier at most, and takes none back. -/
theorem Course.counted (hs : world.ids.Counted) :
    after.ids.Counted ∧ after.ids.given.length ≤ world.ids.given.length + 1 ∧
      ∀ id ∈ world.ids.given, id ∈ after.ids.given := by
  have hids : after.ids = world.ids ∨ after.ids = (world.ids.next world.millis).2 := by
    cases course with
    | turnedAway => exact .inl rfl
    | _ => exact .inr rfl
  obtain he | he := hids
  · rw [he]
    exact ⟨hs, Nat.le_succ _, fun _ hm => hm⟩
  · rw [he]
    exact ⟨hs.next _, Nat.le_refl _, fun _ hm => List.mem_cons_of_mem _ hm⟩

end Courses

/-! ## The clock of the calls -/

theorem exists_admits (cluster : Cluster κ) {event : BuildEvent} {world : World κ}
    (h : world.admits event = true) :
    ∃ project, (collaborators cluster).Admits event world project := by
  obtain ⟨ho, hc⟩ := Bool.and_eq_true_iff.1 h
  cases hp : world.catalog.find? event.projectKey with
  | none =>
      rw [hp] at hc
      cases hc
  | some project =>
      rw [hp] at hc
      exact ⟨project, ho, hp, hc⟩

end World

namespace LaunchAt

variable {cluster : Cluster κ} {launch : LaunchAt κ}

theorem timedCalls_of_waits (ha : launch.world.Answering)
    (hf : launch.world.ttl.Fits launch.world.now) (h : launch.waits = true) :
    launch.timedCalls cluster =
      [(launch.world.now, launch.world.putCall launch.event false),
        (launch.world.now, .defer (launch.world.identified launch.event) (.ok ()))] := by
  obtain ⟨hm, hh⟩ := Bool.and_eq_true_iff.1 h
  obtain ⟨project, hp⟩ := World.exists_admits cluster hm
  have ht : (World.collaborators cluster).tried launch.event launch.world =
      (.ok false, launch.world.mint.2) := World.tried_of_held ha hh
  have hw : ((World.collaborators cluster).tried launch.event launch.world).1 ≠ .ok true := by
    rw [ht]
    simp
  have hd : ((World.collaborators cluster).deferral launch.event launch.world).1 = .ok () := by
    have hminted : launch.world.mint.2.Answering := ⟨ha.locks, ha.queue⟩
    rw [Collaborators.deferral, ht]
    exact congrArg Prod.fst (hminted.deferBuild_eq (launch.world.identified launch.event))
  rw [timedCalls, Collaborators.recorded_of_deferred _ [] hp hf hw hd]
  have hput : (World.collaborators cluster).putCall launch.event launch.world =
      launch.world.putCall launch.event false := by
    rw [Collaborators.putCall, ht]
    rfl
  rw [hput, ht]
  rfl

/-- An admitted launch tries its lock first, with the clock of that call. -/
theorem timedCalls_of_admits (ha : launch.world.Answering)
    (hf : launch.world.ttl.Fits launch.world.now)
    (h : launch.world.admits launch.event = true) :
    ∃ written later, launch.timedCalls cluster =
      (launch.world.now, launch.world.putCall launch.event written) :: later := by
  cases hh : launch.world.locks.isHeld launch.event.lockName launch.world.now with
  | true => exact ⟨_, _, timedCalls_of_waits ha hf (Bool.and_eq_true_iff.2 ⟨h, hh⟩)⟩
  | false =>
      obtain ⟨project, hp⟩ := World.exists_admits cluster h
      have ht : (World.collaborators cluster).tried launch.event launch.world =
          (.ok true, launch.world.locked launch.event) := World.tried_of_free ha hh
      have hw := congrArg Prod.fst ht
      have hput : (World.collaborators cluster).putCall launch.event launch.world =
          launch.world.putCall launch.event true := by
        rw [Collaborators.putCall, ht]
        rfl
      rw [timedCalls]
      cases hc : ((World.collaborators cluster).submission launch.event launch.world project).1 with
      | ok value =>
          rw [Collaborators.recorded_of_launched _ [] hp hf hw hc, hput]
          exact ⟨true, _, rfl⟩
      | error error =>
          rw [Collaborators.recorded_of_uncreated _ [] hp hf hw hc, hput]
          exact ⟨true, _, rfl⟩

end LaunchAt

/-! ## Launches one after another -/

namespace World

/-- A world that launches can lead to. -/
structure Follows (world after : World κ) : Prop where
  answering : after.Answering
  admits_eq : ∀ event, after.admits event = world.admits event
  start_eq : after.start = world.start
  ttl_eq : after.ttl = world.ttl
  clock_le : world.clock ≤ after.clock

section Following

variable {cluster : Cluster κ} {world : World κ}

theorem Answering.follows (h : world.Answering) : world.Follows world :=
  ⟨h, fun _ => rfl, rfl, rfl, Nat.le_refl _⟩

theorem Follows.launch {met : World κ} (h : world.Follows met) (event : BuildEvent) :
    world.Follows (met.launch cluster event).2 := by
  have hc := launch_course cluster event h.answering
  exact ⟨hc.answering h.answering, fun other => (hc.admits_eq other).trans (h.admits_eq other),
    hc.start_eq.trans h.start_eq, hc.ttl_eq.trans h.ttl_eq,
    Nat.le_trans h.clock_le (clock_le_launch cluster event met)⟩

theorem entries_launch (cluster : Cluster κ) (h : world.Answering) {event : BuildEvent}
    (hq : event.lockName ∉ world.queue.lockNames)
    (hs : (world.launch cluster event).1.isSome = true) :
    (world.launch cluster event).2.queue.entries =
      world.queue.entries ++ ([⟨event, world⟩].filter LaunchAt.waits).map LaunchAt.entry := by
  have hc := launch_course cluster event h
  cases hw : (LaunchAt.mk event world).waits with
  | false =>
      rw [hc.queue_eq hw, List.filter_cons_of_neg (Bool.not_eq_true _ ▸ hw)]
      exact (List.append_nil _).symm
  | true =>
      obtain ⟨ha, hh⟩ := Bool.and_eq_true_iff.1 hw
      have hcontains : world.queue.contains (world.identified event).lockName = false :=
        Bool.eq_false_iff.2 (mt (DeferralQueue.contains_iff world.queue _).1 hq)
      rw [hc.eq_requeued ha hh hs, requeued, List.filter_cons_of_pos hw, DeferralQueue.defer,
        hcontains]
      rfl

end Following

namespace Series

variable {cluster : Cluster κ} {events : List BuildEvent} {world after : World κ}
  {launches : List (LaunchAt κ)} {count : Option Nat} {launch : LaunchAt κ}
  (series : Series cluster events world launches count after) (h : world.Answering)

include series

theorem clock_le : world.clock ≤ after.clock ∧
    ∀ launch ∈ launches, launch.world.clock ≤ after.clock := by
  induction series with
  | done => exact ⟨Nat.le_refl _, List.forall_mem_nil _⟩
  | panicked event rest world =>
      have hle := clock_le_launch cluster event world
      exact ⟨hle, List.forall_mem_singleton.2 hle⟩
  | @next event rest world after launches count hr series ih =>
      have hle := Nat.le_trans (clock_le_launch cluster event world) ih.1
      exact ⟨hle, List.forall_mem_cons.2 ⟨hle, ih.2⟩⟩

include h

theorem follows : (∀ launch ∈ launches, world.Follows launch.world) ∧ world.Follows after :=
  series.keeps (fun event _ _ hw => hw.launch event) h.follows

/-- Launches of other lock names leave the record of a name. -/
theorem get?_of_not_mem {name : String} (hn : name ∉ events.map BuildEvent.lockName) :
    after.locks.get? name = world.locks.get? name := by
  let kept (after : World κ) : Prop :=
    after.Answering ∧ after.locks.get? name = world.locks.get? name
  have hk : ∀ event ∈ events, ∀ met, kept met → kept (met.launch cluster event).2 := by
    rintro event hm met ⟨ha, hg⟩
    have hne : name ≠ event.lockName := fun he => hn (he ▸ List.mem_map_of_mem hm)
    exact ⟨ha.launch event, ((launch_course cluster event ha).get?_of_ne hne).trans hg⟩
  exact (series.keeps hk ⟨h, rfl⟩).2.2

/-- While names do not repeat, a launch meets the record that its name had at the beginning. -/
theorem get?_of_mem (hn : (events.map BuildEvent.lockName).Nodup) (hm : launch ∈ launches) :
    launch.world.locks.get? launch.event.lockName =
      world.locks.get? launch.event.lockName := by
  induction series with
  | done => cases hm
  | panicked event rest world =>
      obtain rfl := List.mem_singleton.1 hm
      rfl
  | @next event rest world after launches count hr series ih =>
      rw [List.map_cons, List.nodup_cons] at hn
      obtain rfl | hm := List.mem_cons.1 hm
      · rfl
      · have hne : launch.event.lockName ≠ event.lockName := fun he =>
          hn.1 (he ▸ List.mem_map_of_mem (series.event_mem hm))
        exact (ih (h.launch event) hn.2 hm).trans ((launch_course cluster event h).get?_of_ne hne)

/-- The record of a name that waits is still there at the end. -/
theorem get?_of_waits (hs : count.isSome = true) (hn : (events.map BuildEvent.lockName).Nodup)
    (hm : launch ∈ launches) (hw : launch.waits = true) :
    after.locks.get? launch.event.lockName = world.locks.get? launch.event.lockName := by
  induction series with
  | done => cases hm
  | panicked => cases hs
  | @next event rest world after launches count hr series ih =>
      have hc := launch_course cluster event h
      rw [List.map_cons, List.nodup_cons] at hn
      rw [Option.isSome_map] at hs
      obtain rfl | hm := List.mem_cons.1 hm
      · obtain ⟨ha, hh⟩ := Bool.and_eq_true_iff.1 hw
        have hl : (world.launch cluster event).2.locks = world.locks := by
          rw [hc.eq_requeued ha hh hr]
          rfl
        rw [← hl]
        exact series.get?_of_not_mem (h.launch event) hn.1
      · have hne : launch.event.lockName ≠ event.lockName := fun he =>
          hn.1 (he ▸ List.mem_map_of_mem (series.event_mem hm))
        exact (ih (h.launch event) hs hn.2 hm).trans (hc.get?_of_ne hne)

/-- The builds launched are as many as the pods that the cluster created for them. -/
theorem countP_creates : (launches.flatMap (LaunchAt.calls cluster)).countP Call.creates =
    launches.countP (LaunchAt.isLaunched cluster) := by
  have hmet := (series.keeps (fun event _ _ hw => hw.launch event) h).1
  clear series
  induction launches with
  | nil => rfl
  | cons launch rest ih =>
      obtain ⟨hlaunch, hrest⟩ := List.forall_mem_cons.1 hmet
      have hc := (launch.course cluster hlaunch).countP_creates
      rw [List.flatMap_cons, List.countP_append, ih hrest, List.countP_cons, hc, Nat.add_comm]
      exact congrArg _ (Bool.cond_eq_ite _ _ _)

/-- The events that wait come to the end of the queue, in their order. -/
theorem entries_eq (hs : count.isSome = true) (hn : (events.map BuildEvent.lockName).Nodup)
    (hq : ∀ event ∈ events, event.lockName ∉ world.queue.lockNames) :
    after.queue.entries =
      world.queue.entries ++ (launches.filter LaunchAt.waits).map LaunchAt.entry := by
  induction series with
  | done => exact (List.append_nil _).symm
  | panicked => cases hs
  | @next event rest world after launches count hr series ih =>
      rw [List.map_cons, List.nodup_cons] at hn
      rw [Option.isSome_map] at hs
      have he : (LaunchAt.after cluster ⟨event, world⟩).queue.entries = _ :=
        entries_launch cluster h (hq event List.mem_cons_self) hr
      -- the first launch queues no name but its own, which does not come again
      have hrest : ∀ other ∈ rest,
          other.lockName ∉ (LaunchAt.after cluster ⟨event, world⟩).queue.lockNames := by
        intro other hm hin
        obtain ⟨entry, hin, hname⟩ := List.mem_map.1 hin
        rw [he] at hin
        obtain hin | hin := List.mem_append.1 hin
        · exact hq other (List.mem_cons_of_mem _ hm) (List.mem_map.2 ⟨entry, hin, hname⟩)
        · obtain ⟨launch, hl, rfl⟩ := List.mem_map.1 hin
          obtain rfl := List.mem_singleton.1 (List.mem_filter.1 hl).1
          exact hn.1 (List.mem_map.2 ⟨other, hm, hname.symm⟩)
      rw [ih (h.launch event) hs hn.2 hrest, he, List.append_assoc, ← List.map_append,
        ← List.filter_append, List.singleton_append]

/-- While there is room for the count, launches that wait mint different identifiers, none of them
given out before. -/
theorem fresh (hs : count.isSome = true) (hc : world.ids.Counted)
    (hr : world.ids.given.length + events.length ≤ twoTo 74) :
    let minted := (launches.filter LaunchAt.waits).map fun launch => launch.world.mint.1
    minted.Nodup ∧ ∀ id ∈ minted, id ∉ world.ids.given := by
  intro minted
  induction series with
  | done => exact ⟨List.nodup_nil, List.forall_mem_nil _⟩
  | panicked => cases hs
  | @next event rest world after launches count hresult series ih =>
      have hcourse := launch_course cluster event h
      rw [List.length_cons] at hr
      rw [Option.isSome_map] at hs
      obtain ⟨hcounted, hlength, hgiven⟩ := hcourse.counted hc
      have hroom : (LaunchAt.after cluster ⟨event, world⟩).ids.given.length + rest.length ≤
          twoTo 74 := by
        change (world.launch cluster event).2.ids.given.length + rest.length ≤ twoTo 74
        omega
      obtain ⟨hnodup, hfresh⟩ := ih (h.launch event) hs hcounted hroom
      cases hw : (LaunchAt.mk event world).waits with
      | false =>
          have hm : minted = _ := congrArg (List.map fun launch => launch.world.mint.1)
            (List.filter_cons_of_neg (Bool.not_eq_true _ ▸ hw))
          rw [hm]
          exact ⟨hnodup, fun id hid hg => hfresh id hid (hgiven id hg)⟩
      | true =>
          have hm : minted = _ := congrArg (List.map fun launch => launch.world.mint.1)
            (List.filter_cons_of_pos hw)
          obtain ⟨ha, hh⟩ := Bool.and_eq_true_iff.1 hw
          have hg : (LaunchAt.after cluster ⟨event, world⟩).ids.given =
              world.mint.1 :: world.ids.given := by
            rw [LaunchAt.after, hcourse.eq_requeued ha hh hresult]
            rfl
          rw [hg] at hfresh
          rw [hm, List.map_cons, List.nodup_cons]
          refine ⟨⟨fun hid => hfresh _ hid List.mem_cons_self, hnodup⟩, fun id hid => ?_⟩
          obtain rfl | hid := List.mem_cons.1 hid
          · exact hc.next_not_mem (by omega) _
          · exact fun hin => hfresh id hid (List.mem_cons_of_mem _ hin)

/-- Events that all find their locks live when they are launched first do so when they are launched
one after another. -/
theorem waits_of_held (hh : ∀ event ∈ events, (LaunchAt.mk event world).waits = true)
    (hf : ∀ event ∈ events, world.ttl.Fits world.now) :
    count.isSome = true ∧ ∀ launch ∈ launches, launch.waits = true := by
  induction series with
  | done => exact ⟨rfl, List.forall_mem_nil _⟩
  | panicked event rest world hr =>
      have hno := ((LaunchAt.mk event world).course cluster h).eq_none_iff.1 hr
      exact absurd (hf event List.mem_cons_self) hno.2
  | @next event rest world after launches count hr series ih =>
      have hw := hh event List.mem_cons_self
      obtain ⟨ha, hl⟩ := Bool.and_eq_true_iff.1 hw
      have hq : LaunchAt.after cluster ⟨event, world⟩ = world.requeued event :=
        (launch_course cluster event h).eq_requeued ha hl hr
      rw [hq] at ih
      obtain ⟨hs, hrest⟩ := ih (hq ▸ h.launch event)
        (fun other ho => hh other (List.mem_cons_of_mem _ ho))
        (fun other ho => hf other (List.mem_cons_of_mem _ ho))
      rw [Option.isSome_map]
      exact ⟨hs, List.forall_mem_cons.2 ⟨hw, hrest⟩⟩

end Series

/-! ## A pass -/

section Passes

variable {cluster : Cluster κ} {world : World κ} {launch : LaunchAt κ}

theorem polled_eq (h : world.Answering) : world.polled = world.queue.entries := by
  rw [polled, h.pollDeferred_eq]

theorem follows_resubmissions (cluster : Cluster κ) (h : world.Answering) :
    (∀ launch ∈ world.resubmissions cluster, world.Follows launch.world) ∧
      world.Follows (world.relaunchDeferred cluster).2 := by
  have hp : world.Follows world.pollDeferred.2 := by
    rw [h.pollDeferred_eq]
    exact ⟨⟨h.locks, h.queue⟩, fun _ => rfl, rfl, rfl, Nat.le_refl _⟩
  exact (series_relaunchDeferred cluster world).keeps (fun event _ _ hw => hw.launch event) hp

/-- A pass panics at an admitted event whose lock would end after the calendar. -/
theorem relaunchDeferred_eq_none_iff (h : world.Answering) :
    (world.relaunchDeferred cluster).1 = none ↔
      ∃ launch ∈ world.resubmissions cluster,
        world.admits launch.event = true ∧ ¬ world.ttl.Fits launch.world.now := by
  have hiff : ∀ launch ∈ world.resubmissions cluster, launch.result cluster = none ↔
      world.admits launch.event = true ∧ ¬ world.ttl.Fits launch.world.now := by
    intro launch hm
    have hf := (follows_resubmissions cluster h).1 launch hm
    have hc := (launch.course cluster hf.answering).eq_none_iff
    rwa [hf.admits_eq, hf.ttl_eq] at hc
  have hs := not_congr (series_relaunchDeferred cluster world).isSome_iff
  rw [Option.not_isSome_iff_eq_none] at hs
  rw [hs]
  constructor
  · intro hno
    simp only [Classical.not_forall, Option.not_isSome_iff_eq_none] at hno
    obtain ⟨launch, hm, hr⟩ := hno
    exact ⟨launch, hm, (hiff launch hm).1 hr⟩
  · rintro ⟨launch, hm, hp⟩ hall
    have hr := hall launch hm
    rw [(hiff launch hm).2 hp] at hr
    cases hr

/-- With distinct names in the queue, what a launch of a pass goes by is the record that its name
had at the beginning of the pass. -/
theorem get?_resubmission (h : world.Answering) (hn : world.queue.lockNames.Nodup)
    (hm : launch ∈ world.resubmissions cluster) :
    launch.world.locks.get? launch.event.lockName =
      world.locks.get? launch.event.lockName := by
  have hg := (series_relaunchDeferred cluster world).get?_of_mem h.pollDeferred
    (by rwa [polled_eq h]) hm
  rw [hg, h.pollDeferred_eq]

theorem waits_resubmission (h : world.Answering) (hn : world.queue.lockNames.Nodup)
    (hm : launch ∈ world.resubmissions cluster) :
    launch.waits = (world.admits launch.event &&
      world.locks.isHeld launch.event.lockName launch.world.now) := by
  rw [LaunchAt.waits, ((follows_resubmissions cluster h).1 launch hm).admits_eq, LockStore.isHeld,
    get?_resubmission h hn hm, LockStore.isHeld]

theorem submits_resubmission (h : world.Answering) (hn : world.queue.lockNames.Nodup)
    (hm : launch ∈ world.resubmissions cluster) :
    launch.Submits cluster ↔ world.admits launch.event = true ∧
      world.ttl.Fits launch.world.now ∧
      ∀ held, world.locks.get? launch.event.lockName = some held →
        held.expiresAt < launch.world.now := by
  have hf := (follows_resubmissions cluster h).1 launch hm
  have hs := (launch.course cluster hf.answering).submits_iff
  rw [hf.admits_eq, hf.ttl_eq, LockStore.isHeld_eq_false_iff, get?_resubmission h hn hm] at hs
  exact hs

section Returned

variable (h : world.Answering) (hr : (world.relaunchDeferred cluster).1.isSome = true)

include h hr

theorem map_event_resubmissions :
    (world.resubmissions cluster).map LaunchAt.event = world.queue.entries := by
  rw [((series_relaunchDeferred cluster world).of_isSome hr).1, polled_eq h]

theorem fst_relaunchDeferred :
    (world.relaunchDeferred cluster).1 = some
      (((world.resubmissions cluster).flatMap (LaunchAt.calls cluster)).countP Call.creates) := by
  have series := series_relaunchDeferred cluster world
  rw [(series.of_isSome hr).2, series.countP_creates h.pollDeferred]

variable (hn : world.queue.lockNames.Nodup)

include hn

theorem entries_relaunchDeferred :
    (world.relaunchDeferred cluster).2.queue.entries =
      ((world.resubmissions cluster).filter LaunchAt.waits).map LaunchAt.entry := by
  have hempty : world.pollDeferred.2.queue = .empty := by rw [h.pollDeferred_eq]
  have hq : ∀ event ∈ world.polled, event.lockName ∉ world.pollDeferred.2.queue.lockNames := by
    rw [hempty]
    exact fun _ _ => List.not_mem_nil
  have he := (series_relaunchDeferred cluster world).entries_eq h.pollDeferred hr
    (by rwa [polled_eq h]) hq
  rwa [hempty] at he

theorem nodup_relaunchDeferred : (world.relaunchDeferred cluster).2.queue.lockNames.Nodup := by
  have hl : (world.relaunchDeferred cluster).2.queue.lockNames =
      (((world.resubmissions cluster).filter LaunchAt.waits).map LaunchAt.event).map
        BuildEvent.lockName := by
    rw [DeferralQueue.lockNames, entries_relaunchDeferred h hr hn, List.map_map, List.map_map]
    rfl
  have hs : (((world.resubmissions cluster).filter LaunchAt.waits).map LaunchAt.event).Sublist
      world.queue.entries := by
    rw [← map_event_resubmissions h hr]
    exact List.filter_sublist.map _
  rw [hl]
  exact (hs.map _).nodup hn

/-- What waits after a pass that took no time still finds its lock live, at the same clock. -/
theorem waits_again (hc : (world.relaunchDeferred cluster).2.clock = world.clock)
    (hm : launch ∈ world.resubmissions cluster) (hw : launch.waits = true) :
    launch.world.now = (world.relaunchDeferred cluster).2.now ∧
      (LaunchAt.mk launch.entry (world.relaunchDeferred cluster).2).waits = true := by
  have series := series_relaunchDeferred cluster world
  have hfollows := (follows_resubmissions cluster h).1 launch hm
  have hend := (follows_resubmissions cluster h).2
  -- no time has passed, so the launch read the clock that stands at the end of the pass
  have hnow : launch.world.now = (world.relaunchDeferred cluster).2.now := by
    have hclock : launch.world.clock = (world.relaunchDeferred cluster).2.clock :=
      Nat.le_antisymm (series.clock_le.2 launch hm) (hc ▸ hfollows.clock_le)
    rw [now, now, hfollows.start_eq, hend.start_eq, hclock]
  have hl : (world.relaunchDeferred cluster).2.locks.get? launch.event.lockName =
      world.locks.get? launch.event.lockName := by
    rw [series.get?_of_waits h.pollDeferred hr (by rwa [polled_eq h]) hm hw, h.pollDeferred_eq]
  rw [waits_resubmission h hn hm] at hw
  obtain ⟨ha, hh⟩ := Bool.and_eq_true_iff.1 hw
  refine ⟨hnow, Bool.and_eq_true_iff.2 ⟨(hend.admits_eq _).trans ha, ?_⟩⟩
  rw [LockStore.isHeld, LaunchAt.lockName_entry, hl, ← hnow]
  exact hh

end Returned

theorem fresh_resubmissions (h : world.Answering)
    (hr : (world.relaunchDeferred cluster).1.isSome = true) (hc : world.ids.Counted)
    (hroom : world.ids.given.length + world.queue.size ≤ twoTo 74) :
    let minted := ((world.resubmissions cluster).filter LaunchAt.waits).map fun launch =>
      launch.world.mint.1
    minted.Nodup ∧ ∀ id ∈ minted, id ∉ world.ids.given := by
  have hids : world.pollDeferred.2.ids = world.ids := by rw [h.pollDeferred_eq]
  have hf := (series_relaunchDeferred cluster world).fresh h.pollDeferred hr
    (by rwa [hids]) (by rwa [hids, polled_eq h])
  rwa [hids] at hf

/-- A pass over events that all find their locks live submits nothing and keeps the queue's
names. -/
theorem relaunchDeferred_of_waits (h : world.Answering) (hn : world.queue.lockNames.Nodup)
    (hw : ∀ event ∈ world.queue.entries, (LaunchAt.mk event world).waits = true)
    (hf : ∀ event ∈ world.queue.entries, world.ttl.Fits world.now) :
    (world.relaunchDeferred cluster).1 = some 0 ∧
      (∀ launch ∈ world.resubmissions cluster, ¬ launch.Submits cluster) ∧
      (world.relaunchDeferred cluster).2.queue.lockNames = world.queue.lockNames := by
  obtain ⟨hr, hall⟩ : (world.relaunchDeferred cluster).1.isSome = true ∧
      ∀ launch ∈ world.resubmissions cluster, launch.waits = true := by
    refine (series_relaunchDeferred cluster world).waits_of_held h.pollDeferred ?_ ?_
    · intro event hm
      rw [h.pollDeferred_eq]
      rw [polled_eq h] at hm
      exact hw event hm
    · intro event hm
      rw [h.pollDeferred_eq]
      rw [polled_eq h] at hm
      exact hf event hm
  have hnone : ∀ launch ∈ world.resubmissions cluster, ¬ launch.Submits cluster := by
    intro launch hm hs
    have hf := (follows_resubmissions cluster h).1 launch hm
    have hfree := ((launch.course cluster hf.answering).submits_iff.1 hs).2.2
    have hheld := (Bool.and_eq_true_iff.1 (hall launch hm)).2
    cases hfree.symm.trans hheld
  refine ⟨?_, hnone, ?_⟩
  · rw [fst_relaunchDeferred h hr]
    refine congrArg some (List.countP_eq_zero.2 fun call hm hcreates => ?_)
    obtain ⟨launch, hl, hcall⟩ := List.mem_flatMap.1 hm
    cases call with
    | create spec answer => exact hnone launch hl ⟨spec, answer, hcall⟩
    | _ => cases hcreates
  · rw [DeferralQueue.lockNames, entries_relaunchDeferred h hr hn, List.filter_eq_self.2 hall,
      List.map_map, DeferralQueue.lockNames, ← map_event_resubmissions h hr, List.map_map]
    rfl

/-- After a pass that took no time a second one submits nothing and keeps the queue's names. -/
theorem relaunchDeferred_twice (h : world.Answering)
    (hr : (world.relaunchDeferred cluster).1.isSome = true) (hn : world.queue.lockNames.Nodup)
    (hf : ∀ launch ∈ world.resubmissions cluster, world.admits launch.event = true →
      world.ttl.Fits launch.world.now)
    (hc : (world.relaunchDeferred cluster).2.clock = world.clock) :
    let after := (world.relaunchDeferred cluster).2
    (after.relaunchDeferred cluster).1 = some 0 ∧
      (∀ launch ∈ after.resubmissions cluster, ¬ launch.Submits cluster) ∧
      (after.relaunchDeferred cluster).2.queue.lockNames = after.queue.lockNames := by
  intro after
  have hfollows := (follows_resubmissions cluster h).2
  have hagain : ∀ event ∈ after.queue.entries,
      (LaunchAt.mk event after).waits = true ∧ after.ttl.Fits after.now := by
    intro event hm
    rw [entries_relaunchDeferred h hr hn] at hm
    obtain ⟨launch, hl, rfl⟩ := List.mem_map.1 hm
    obtain ⟨hpass, hw⟩ := List.mem_filter.1 hl
    obtain ⟨hnow, hwaits⟩ := waits_again h hr hn hc hpass hw
    rw [waits_resubmission h hn hpass] at hw
    refine ⟨hwaits, ?_⟩
    rw [hfollows.ttl_eq, ← hnow]
    exact hf launch hpass (Bool.and_eq_true_iff.1 hw).1
  exact relaunchDeferred_of_waits hfollows.answering (nodup_relaunchDeferred h hr hn)
    (fun event hm => (hagain event hm).1) fun event hm => (hagain event hm).2

end Passes

def manages (world : World κ) (event : BuildEvent) : Bool :=
  (world.catalog.find? event.projectKey).any (·.descriptor.isManaged event.ref)

theorem admits_eq_manages {world : World κ} (ho : world.gate.isOpen = true) (event : BuildEvent) :
    world.admits event = world.manages event := by
  rw [admits, ho, Bool.true_and, manages]

/-- What a pass with an open gate does, whatever the cluster answers and however long it takes. It
panics at the first event of a managed ref whose lock would end after the calendar; otherwise it
returns. The events are launched in the order of the queue, each going by the clock at its own put.
The pass returns the number of pods created; submitted are the events of managed refs whose lock is
absent or expired. The others of managed refs wait again, in their order, with a new identifier and
the time of their deferral in this pass. After a pass that took no time a second one submits nothing
and keeps the lock names. -/
theorem relaunch_effect (cluster : Cluster κ) (world : World κ) (ho : world.gate.isOpen = true)
    (ha : world.Answering) (hn : world.queue.lockNames.Nodup) :
    let pass := world.resubmissions cluster
    let after := (world.relaunchDeferred cluster).2
    let waiting := pass.filter fun launch => world.manages launch.event &&
      world.locks.isHeld launch.event.lockName launch.world.now
    pass.map LaunchAt.event <+: world.queue.entries ∧
    ((world.relaunchDeferred cluster).1 = none ↔ ∃ launch ∈ pass,
      world.manages launch.event = true ∧ ¬ world.ttl.Fits launch.world.now) ∧
    ((∀ launch ∈ pass, world.manages launch.event = true → world.ttl.Fits launch.world.now) →
      pass.map LaunchAt.event = world.queue.entries ∧
      (∀ launch ∈ pass, (launch.timedCalls cluster).map Prod.snd = launch.calls cluster ∧
        (world.manages launch.event = true → ∃ written later, launch.timedCalls cluster =
          (launch.world.now, launch.world.putCall launch.event written) :: later)) ∧
      (world.relaunchDeferred cluster).1 =
        some ((pass.flatMap (LaunchAt.calls cluster)).countP Call.creates) ∧
      (∀ launch ∈ pass, launch.Submits cluster ↔ world.manages launch.event = true ∧
        ∀ held, world.locks.get? launch.event.lockName = some held →
          held.expiresAt < launch.world.now) ∧
      after.queue.entries = waiting.map LaunchAt.entry ∧
      (∀ launch ∈ waiting, (launch.world.now,
        .defer (launch.world.identified launch.event) (.ok ())) ∈ launch.timedCalls cluster) ∧
      (world.ids.Counted → world.ids.given.length + world.queue.size ≤ twoTo 74 →
        (waiting.map fun launch => launch.world.mint.1).Nodup ∧
          ∀ launch ∈ waiting, launch.world.mint.1 ∉ world.ids.given) ∧
      (after.clock = world.clock →
        (after.relaunchDeferred cluster).1 = some 0 ∧
        (∀ launch ∈ after.resubmissions cluster, ¬ launch.Submits cluster) ∧
        (after.relaunchDeferred cluster).2.queue.lockNames = after.queue.lockNames)) := by
  intro pass after waiting
  have hfollows := follows_resubmissions cluster ha
  have hwaiting : waiting = pass.filter LaunchAt.waits := by
    refine List.filter_congr fun launch hm => ?_
    rw [waits_resubmission ha hn hm, admits_eq_manages ho]
  have hpanics : (world.relaunchDeferred cluster).1 = none ↔ ∃ launch ∈ pass,
      world.manages launch.event = true ∧ ¬ world.ttl.Fits launch.world.now := by
    simp only [← admits_eq_manages ho]
    exact relaunchDeferred_eq_none_iff ha
  refine ⟨?_, hpanics, fun hfits => ?_⟩
  · rw [← polled_eq ha]
    exact (series_relaunchDeferred cluster world).events_extend
  have hr : (world.relaunchDeferred cluster).1.isSome = true := by
    rw [Option.isSome_iff_ne_none, Ne, hpanics]
    rintro ⟨launch, hm, hmanaged, hno⟩
    exact hno (hfits launch hm hmanaged)
  have hmet : ∀ launch ∈ pass, world.manages launch.event = true →
      launch.world.Answering ∧ launch.world.ttl.Fits launch.world.now ∧
        launch.world.admits launch.event = true := by
    intro launch hm hmanaged
    have hf := hfollows.1 launch hm
    refine ⟨hf.answering, hf.ttl_eq ▸ hfits launch hm hmanaged, ?_⟩
    rw [hf.admits_eq, admits_eq_manages ho, hmanaged]
  have hentries : after.queue.entries = waiting.map LaunchAt.entry := by
    rw [hwaiting]
    exact entries_relaunchDeferred ha hr hn
  refine ⟨map_event_resubmissions ha hr, ?_, fst_relaunchDeferred ha hr, ?_, hentries, ?_, ?_, ?_⟩
  · intro launch hm
    refine ⟨launch.map_snd_timedCalls cluster, fun hmanaged => ?_⟩
    obtain ⟨hanswering, hf, hadmits⟩ := hmet launch hm hmanaged
    exact LaunchAt.timedCalls_of_admits hanswering hf hadmits
  · intro launch hm
    rw [submits_resubmission ha hn hm, admits_eq_manages ho]
    exact and_congr_right fun hmanaged => and_iff_right (hfits launch hm hmanaged)
  · intro launch hm
    obtain ⟨hpass, hmanaged⟩ := List.mem_filter.1 hm
    obtain ⟨hanswering, hf, -⟩ := hmet launch hpass (Bool.and_eq_true_iff.1 hmanaged).1
    rw [hwaiting] at hm
    rw [LaunchAt.timedCalls_of_waits hanswering hf (List.mem_filter.1 hm).2]
    exact List.mem_cons_of_mem _ List.mem_cons_self
  · intro hs hroom
    obtain ⟨hnodup, hfresh⟩ := fresh_resubmissions ha hr hs hroom
    rw [hwaiting]
    exact ⟨hnodup, fun launch hm => hfresh _ (List.mem_map_of_mem hm)⟩
  · intro hc
    refine relaunchDeferred_twice ha hr hn (fun launch hm hadmits => ?_) hc
    exact hfits launch hm ((admits_eq_manages ho launch.event).symm.trans hadmits)

/-- Of two deferred builds one finds its lock live and waits again, in a second pass too; the other
one is launched. -/
theorem relaunch_effect_of_two :
    let other : BuildEvent := { Crew.sampleEvent with ref := "dev" }
    let world : World Recorder := { Crew.sampleWorld [] with
      queue := ⟨[Crew.sampleEvent, other]⟩
      locks := ⟨[⟨Crew.sampleEvent.lockName, Instant.ofNanos 500⟩]⟩ }
    let after := (world.relaunchDeferred Recorder.cluster).2
    world.gate.isOpen = true ∧ world.Answering ∧ world.queue.lockNames.Nodup ∧
    (∀ launch ∈ world.resubmissions Recorder.cluster, world.manages launch.event = true →
      world.ttl.Fits launch.world.now) ∧
    world.ids.Counted ∧ world.ids.given.length + world.queue.size ≤ twoTo 74 ∧
    after.clock = world.clock ∧
    (world.relaunchDeferred Recorder.cluster).1 = some 1 ∧
    after.queue.lockNames = [Crew.sampleEvent.lockName] ∧
    (after.queue.entries.map BuildEvent.id).Nodup ∧
    (after.relaunchDeferred Recorder.cluster).1 = some 0 ∧
    (after.relaunchDeferred Recorder.cluster).2.queue.lockNames = after.queue.lockNames := by
  intro other world after
  have ho : world.gate.isOpen = true := rfl
  have ha : world.Answering := ⟨rfl, rfl⟩
  have hn : world.queue.lockNames.Nodup := by decide +kernel
  have hfits : ∀ launch ∈ world.resubmissions Recorder.cluster,
      world.manages launch.event = true → world.ttl.Fits launch.world.now := by decide +kernel
  have hroom : world.ids.given.length + world.queue.size ≤ twoTo 74 := by decide +kernel
  have hclock : after.clock = world.clock := by decide +kernel
  obtain ⟨-, -, hpass⟩ := relaunch_effect Recorder.cluster world ho ha hn
  obtain ⟨-, -, hcount, -, hentries, -, hfresh, hagain⟩ := hpass hfits
  have hids := (hfresh IdSupply.counted_new hroom).1
  refine ⟨ho, ha, hn, hfits, IdSupply.counted_new, hroom, hclock,
    hcount.trans (by decide +kernel), ?_, ?_, (hagain hclock).1, (hagain hclock).2.2⟩
  · rw [DeferralQueue.lockNames, hentries]
    decide +kernel
  · rw [hentries, List.map_map]
    have hmint : (BuildEvent.id ∘ LaunchAt.entry : LaunchAt Recorder → Option BuildId) =
        some ∘ fun launch => launch.world.mint.1 := rfl
    rw [hmint, ← List.map_map]
    exact List.Pairwise.map some (fun _ _ hne he => hne (Option.some.inj he)) hids

/-- Locks of nine trillion seconds would end after the calendar: a pass panics at the first of two
deferred builds, though nobody holds their locks. It returns no count, and neither build is
submitted or queued again. -/
theorem pass_without_count :
    ¬ ∀ world : World Recorder, world.gate.isOpen = true → world.Answering →
      world.queue.lockNames.Nodup →
      (world.relaunchDeferred Recorder.cluster).1 =
        some (((world.resubmissions Recorder.cluster).flatMap
          (LaunchAt.calls Recorder.cluster)).countP Call.creates) ∧
      ∀ event ∈ world.queue.entries, world.manages event = true →
        world.locks.isHeld event.lockName world.now = false →
        ∃ launch ∈ world.resubmissions Recorder.cluster,
          launch.event = event ∧ launch.Submits Recorder.cluster := by
  intro h
  let other : BuildEvent := { Crew.sampleEvent with ref := "dev" }
  let world : World Recorder := { Crew.sampleWorld [] with
    ttl := Span.ofSeconds 9000000000000
    queue := ⟨[Crew.sampleEvent, other]⟩ }
  have hn : world.queue.lockNames.Nodup := by decide +kernel
  have hnone : (world.relaunchDeferred Recorder.cluster).1.isSome = false := by decide +kernel
  obtain ⟨hcount, -⟩ := h world rfl ⟨rfl, rfl⟩ hn
  rw [hcount] at hnone
  cases hnone

end World

end BuildScheduler
