import BuildScheduler.Proofs.Concurrency.Crew
import BuildScheduler.Proofs.History
import BuildScheduler.Proofs.Resubmission.Launches

/-!
# Locks over whole runs

A run is any sequence of operations. Its deeds are the launches, direct or resubmitted, and the
releases, in order. What the lock store has under a name follows from them: `lock_iff_launched`.
-/

namespace BuildScheduler

/-- What can be asked of an orchestrator, and the time that passes in between. -/
inductive Operation where
  | launch (event : BuildEvent)
  | relaunch
  | defer (event : BuildEvent)
  | clear (name : String)
  | openQueue
  | closeQueue
  | release (event : BuildEvent)
  | wait (nanos : Nat)

inductive Deed (κ : Type) where
  | launching (launch : LaunchAt κ)
  | releasing (name : String)

namespace World

variable (cluster : Cluster κ)

def perform (world : World κ) : Operation → World κ
  | .launch event => (world.launch cluster event).2
  | .relaunch => (world.relaunchDeferred cluster).2
  | .defer event => (world.deferBuild event).2
  | .clear name => (world.clearDeferred name).2
  | .openQueue => world.openQueue
  | .closeQueue => world.closeQueue
  | .release event => (world.release event).2
  | .wait nanos => world.wait nanos

def performAll (world : World κ) (operations : List Operation) : World κ :=
  operations.foldl (perform cluster) world

def deedsOf (world : World κ) : Operation → List (Deed κ)
  | .launch event => [.launching ⟨event, world⟩]
  | .relaunch => (world.resubmissions cluster).map .launching
  | .release event => [.releasing event.lockName]
  | _ => []

def deeds : World κ → List Operation → List (Deed κ)
  | _, [] => []
  | world, operation :: rest =>
      world.deedsOf cluster operation ++ deeds (world.perform cluster operation) rest

end World

/-! ## What a deed does to a lock name -/

def Call.acquired? : Call → Option Instant
  | .put _ now (.ok true) => some now
  | _ => none

namespace LaunchAt

variable (cluster : Cluster κ) (launch : LaunchAt κ)

def acquired? : Option Instant := (launch.calls cluster).findSome? Call.acquired?

/-- What a launch does to its lock: it keeps the lock it took, gives it back, or took none. -/
def mark : Mark Instant :=
  (launch.acquired? cluster).elim .left fun time =>
    if launch.isLaunched cluster then .set time else .cleared

variable {cluster launch}

/-- A launch takes no lock and leaves its record, keeps the lock that it took, or takes it and gives
it back. -/
theorem mark_cases (cluster : Cluster κ) (h : launch.world.Answering) :
    (launch.mark cluster = .left ∧ launch.isLaunched cluster = false ∧
      (∀ time, ¬ launch.AcquiredAt cluster time) ∧
      (launch.after cluster).locks = launch.world.locks) ∨
    (launch.mark cluster = .set launch.world.now ∧ launch.isLaunched cluster = true ∧
      (∀ time, launch.AcquiredAt cluster time ↔ time = launch.world.now) ∧
      ¬ launch.Uncreated cluster ∧
      (launch.after cluster).locks = (launch.world.locked launch.event).locks) ∨
    (launch.mark cluster = .cleared ∧ launch.isLaunched cluster = false ∧
      launch.Uncreated cluster ∧
      (launch.after cluster).locks =
        (launch.world.locked launch.event).locks.delete launch.event.lockName) := by
  have hc := launch.course cluster h
  unfold mark acquired? isLaunched Uncreated AcquiredAt
  generalize launch.result cluster = ending at hc ⊢
  generalize launch.after cluster = after at hc ⊢
  generalize launch.calls cluster = calls at hc ⊢
  cases hc with
  | turnedAway result ha hr =>
      refine .inl ⟨rfl, ?_, by simp, rfl⟩
      cases result with
      | ok outcome => exact hr outcome rfl
      | error error => rfl
  | panicked => exact .inl ⟨rfl, rfl, by simp, rfl⟩
  | deferred => exact .inl ⟨rfl, rfl, by simp [World.putCall], rfl⟩
  | launched =>
      exact .inr (.inl ⟨rfl, rfl, by simp [World.putCall], by simp [World.putCall], rfl⟩)
  | uncreated => exact .inr (.inr ⟨rfl, rfl, by simp [World.putCall], rfl⟩)

theorem mark_eq_set (h : launch.world.Answering) {time : Instant} :
    launch.mark cluster = .set time ↔
      launch.isLaunched cluster = true ∧ launch.AcquiredAt cluster time := by
  obtain ⟨hm, hl, -⟩ | ⟨hm, hl, ha, -⟩ | ⟨hm, hl, -⟩ := mark_cases cluster h
  · simp [hm, hl]
  · simp [hm, hl, ha, eq_comm]
  · simp [hm, hl]

/-- A launch that ends as launched took its lock. -/
theorem acquiredAt_of_isLaunched (h : launch.world.Answering)
    (hl : launch.isLaunched cluster = true) : ∃ time, launch.AcquiredAt cluster time := by
  obtain ⟨-, hn, -⟩ | ⟨-, -, ha, -⟩ | ⟨-, hn, -⟩ := mark_cases cluster h
  · cases hl.symm.trans hn
  · exact ⟨_, (ha _).2 rfl⟩
  · cases hl.symm.trans hn

theorem mark_eq_cleared (h : launch.world.Answering) :
    launch.mark cluster = .cleared ↔ launch.Uncreated cluster := by
  obtain ⟨hm, -, ha, -⟩ | ⟨hm, -, -, hu, -⟩ | ⟨hm, -, hu, -⟩ := mark_cases cluster h
  · rw [hm]
    exact iff_of_false nofun fun hu => hu.1.elim ha
  · rw [hm]
    exact iff_of_false nofun hu
  · exact iff_of_true hm hu

end LaunchAt

namespace Deed

variable (cluster : Cluster κ) (name : String) (deed : Deed κ)

/-- The deed is a launch of the name that ended as launched. -/
def Launches : Prop :=
  ∃ launch, deed = .launching launch ∧ launch.event.lockName = name ∧
    launch.isLaunched cluster = true

/-- The deed is a release of the name, or a launch of it that took the lock without getting its
pod. -/
def Frees : Prop :=
  deed = .releasing name ∨
    ∃ launch, deed = .launching launch ∧ launch.event.lockName = name ∧ launch.Uncreated cluster

def mark : Deed κ → Mark Instant
  | .launching launch => if launch.event.lockName = name then launch.mark cluster else .left
  | .releasing other => if other = name then .cleared else .left

def Answering : Deed κ → Prop
  | .launching launch => launch.world.Answering
  | .releasing _ => True

variable {cluster name deed}

theorem mark_eq_set (h : deed.Answering) {time : Instant} :
    deed.mark cluster name = .set time ↔
      ∃ launch, deed = .launching launch ∧ launch.event.lockName = name ∧
        launch.isLaunched cluster = true ∧ launch.AcquiredAt cluster time := by
  cases deed with
  | launching launch =>
      have hl : launch.mark cluster = .set time ↔ _ := LaunchAt.mark_eq_set h
      by_cases hn : launch.event.lockName = name
      · simp [mark, hn, hl]
      · simp [mark, hn]
  | releasing other =>
      by_cases hn : other = name
      · simp [mark, hn]
      · simp [mark, hn]

theorem mark_eq_cleared (h : deed.Answering) :
    deed.mark cluster name = .cleared ↔ deed.Frees cluster name := by
  unfold Frees
  cases deed with
  | launching launch =>
      have hl : launch.mark cluster = .cleared ↔ _ := LaunchAt.mark_eq_cleared h
      by_cases hn : launch.event.lockName = name
      · simp [mark, hn, hl]
      · simp [mark, hn]
  | releasing other =>
      by_cases hn : other = name
      · simp [mark, hn]
      · simp [mark, hn]

/-- A launch of the name that ends as launched sets the time of its lock, and no other deed does. -/
theorem launches_iff (h : deed.Answering) :
    deed.Launches cluster name ↔ ∃ time, deed.mark cluster name = .set time := by
  simp only [mark_eq_set h]
  constructor
  · rintro ⟨launch, rfl, hn, hl⟩
    obtain ⟨time, ha⟩ := LaunchAt.acquiredAt_of_isLaunched h hl
    exact ⟨time, launch, rfl, hn, hl, ha⟩
  · rintro ⟨time, launch, hd, hn, hl, _⟩
    exact ⟨launch, hd, hn, hl⟩

theorem mark_eq_left (h : deed.Answering) :
    deed.mark cluster name = .left ↔
      ¬ deed.Launches cluster name ∧ ¬ deed.Frees cluster name := by
  rw [launches_iff h, ← mark_eq_cleared h]
  cases deed.mark cluster name with
  | left => simp
  | cleared => simp
  | set time => simp

end Deed

/-! ## What the store has of a lock name -/

def lockTaken (name : String) (ttl : Span) (time : Instant) : LockRecord :=
  ⟨name, time.add ttl.effectiveTtl.nanos⟩

/-- The stores of a world answer, and the lock store has the record of a lock taken at a time, if
there is one. -/
structure World.Tracks (name : String) (ttl : Span) (taken : Option Instant) (world : World κ) :
    Prop where
  answering : world.Answering
  ttl_eq : world.ttl = ttl
  stored : world.locks.get? name = taken.map (lockTaken name ttl)

namespace World

section Tracking

variable {cluster : Cluster κ} {name : String} {ttl : Span} {taken : Option Instant}
  {world : World κ}

/-- A launch does to its lock what its mark says. -/
theorem stored_launch (launch : LaunchAt κ) (h : launch.world.Tracks name ttl taken)
    (hn : launch.event.lockName = name) :
    (launch.after cluster).locks.get? name =
      ((launch.mark cluster).upon taken).map (lockTaken name ttl) := by
  subst hn
  obtain ⟨hm, -, -, hl⟩ | ⟨hm, -, -, -, hl⟩ | ⟨hm, -, -, hl⟩ :=
    LaunchAt.mark_cases cluster h.answering
  · rw [hl, hm]
    exact h.stored
  · rw [hl, hm, locked, LockStore.get?_write, name_lockRecord, if_pos rfl, Mark.upon,
      Option.map_some, lockTaken, ← h.ttl_eq]
    rfl
  · rw [hl, hm, LockStore.get?_delete, if_pos rfl]
    rfl

theorem Tracks.launch (h : world.Tracks name ttl taken) (event : BuildEvent) :
    (world.launch cluster event).2.Tracks name ttl
      (((Deed.launching ⟨event, world⟩).mark cluster name).upon taken) := by
  have hc := launch_course cluster event h.answering
  refine ⟨hc.answering h.answering, hc.ttl_eq.trans h.ttl_eq, ?_⟩
  by_cases hn : event.lockName = name
  · have hm : (Deed.launching ⟨event, world⟩).mark cluster name =
        (LaunchAt.mk event world).mark cluster := if_pos hn
    rw [hm]
    exact stored_launch ⟨event, world⟩ h hn
  · have hm : (Deed.launching ⟨event, world⟩).mark cluster name = .left := if_neg hn
    rw [hm, hc.get?_of_ne (Ne.symm hn)]
    exact h.stored

theorem Tracks.series {events : List BuildEvent} {after : World κ} {launches : List (LaunchAt κ)}
    {count : Option Nat} (series : Series cluster events world launches count after)
    (h : world.Tracks name ttl taken) :
    after.Tracks name ttl
      (Mark.standing (Deed.mark cluster name) taken (launches.map .launching)) := by
  induction series generalizing taken with
  | done => exact h
  | panicked event => exact h.launch event
  | next event _ _ ih => exact ih (h.launch event)

theorem Tracks.relaunchDeferred (h : world.Tracks name ttl taken) :
    (world.relaunchDeferred cluster).2.Tracks name ttl
      (Mark.standing (Deed.mark cluster name) taken
        ((world.resubmissions cluster).map .launching)) := by
  have hp : world.pollDeferred.2.Tracks name ttl taken := by
    rw [h.answering.pollDeferred_eq]
    exact ⟨⟨h.answering.locks, h.answering.queue⟩, h.ttl_eq, h.stored⟩
  exact hp.series (series_relaunchDeferred cluster world)

theorem Tracks.release (h : world.Tracks name ttl taken) (event : BuildEvent) :
    (world.release event).2.Tracks name ttl
      (((Deed.releasing event.lockName).mark cluster name).upon taken) := by
  have hd := h.answering.deleteLock_eq event.lockName
  change world.release event = _ at hd
  rw [hd]
  refine ⟨⟨h.answering.locks, h.answering.queue⟩, h.ttl_eq, ?_⟩
  rw [LockStore.get?_delete, Deed.mark]
  by_cases hn : event.lockName = name
  · rw [if_pos hn, if_pos hn.symm]
    rfl
  · rw [if_neg hn, if_neg (Ne.symm hn)]
    exact h.stored

/-- An operation does to the lock of a name what its deeds say. -/
theorem Tracks.perform (h : world.Tracks name ttl taken) (operation : Operation) :
    (world.perform cluster operation).Tracks name ttl
      (Mark.standing (Deed.mark cluster name) taken (world.deedsOf cluster operation)) := by
  cases operation with
  | launch event => exact h.launch event
  | relaunch => exact h.relaunchDeferred
  | defer event =>
      have hd := h.answering.deferBuild_eq event
      simp only [World.perform, hd]
      exact ⟨⟨h.answering.locks, h.answering.queue⟩, h.ttl_eq, h.stored⟩
  | clear other =>
      have hd := h.answering.clearDeferred_eq other
      simp only [World.perform, hd]
      exact ⟨⟨h.answering.locks, h.answering.queue⟩, h.ttl_eq, h.stored⟩
  | release event => exact h.release event
  | openQueue => exact ⟨⟨h.answering.locks, h.answering.queue⟩, h.ttl_eq, h.stored⟩
  | closeQueue => exact ⟨⟨h.answering.locks, h.answering.queue⟩, h.ttl_eq, h.stored⟩
  | wait nanos => exact ⟨⟨h.answering.locks, h.answering.queue⟩, h.ttl_eq, h.stored⟩

theorem Tracks.performAll (h : world.Tracks name ttl taken) (operations : List Operation) :
    (world.performAll cluster operations).Tracks name ttl
      (Mark.standing (Deed.mark cluster name) taken (world.deeds cluster operations)) := by
  induction operations generalizing world taken with
  | nil => exact h
  | cons operation rest ih =>
      rw [deeds, Mark.standing_append]
      exact ih (h.perform operation)

theorem Tracks.answering_of_mem_deedsOf (h : world.Tracks name ttl taken) {operation : Operation}
    {deed : Deed κ} (hm : deed ∈ world.deedsOf cluster operation) : deed.Answering := by
  cases operation with
  | launch event =>
      obtain rfl := List.mem_singleton.1 hm
      exact h.answering
  | relaunch =>
      obtain ⟨launch, hl, rfl⟩ := List.mem_map.1 hm
      exact ((series_relaunchDeferred cluster world).keeps (fun event _ _ hw => hw.launch event)
        h.answering.pollDeferred).1 launch hl
  | release event =>
      obtain rfl := List.mem_singleton.1 hm
      exact trivial
  | _ => cases hm

theorem Tracks.answering_of_mem_deeds (h : world.Tracks name ttl taken)
    {operations : List Operation} {deed : Deed κ} (hm : deed ∈ world.deeds cluster operations) :
    deed.Answering := by
  induction operations generalizing world taken with
  | nil => cases hm
  | cons operation rest ih =>
      obtain hm | hm := List.mem_append.1 hm
      · exact h.answering_of_mem_deedsOf hm
      · exact ih (h.perform operation) hm

end Tracking

/-- After any run from an empty lock store, a name has a record if and only if some launch of it
ended as launched and since then the name was neither released nor taken by a launch whose pod was
not created. The record ends one time to live after the last such launch took the lock. -/
theorem lock_iff_launched (cluster : Cluster κ) (world : World κ) (hs : world.locks = .empty)
    (ha : world.Answering) (ht : world.ttl.nanos ≤ Span.longestTtl)
    (operations : List Operation) (name : String) :
    let after := world.performAll cluster operations
    let deeds := world.deeds cluster operations
    ((∃ record, after.locks.get? name = some record) ↔
      ∃ before deed later, deeds = before ++ deed :: later ∧ deed.Launches cluster name ∧
        ∀ other ∈ later, ¬ other.Frees cluster name) ∧
    ∀ record, after.locks.get? name = some record →
      ∃ before launch later time, deeds = before ++ .launching launch :: later ∧
        launch.event.lockName = name ∧ launch.isLaunched cluster = true ∧
        launch.AcquiredAt cluster time ∧
        (∀ other ∈ later, ¬ other.Launches cluster name ∧ ¬ other.Frees cluster name) ∧
        record = ⟨name, time.add world.ttl.nanos⟩ := by
  intro after deeds
  have h0 : world.Tracks name world.ttl none := ⟨ha, rfl, by rw [hs]; rfl⟩
  have hg : after.locks.get? name =
      (Mark.standing (Deed.mark cluster name) none deeds).map (lockTaken name world.ttl) :=
    (h0.performAll operations).stored
  have hall : ∀ deed ∈ deeds, deed.Answering := fun deed hm => h0.answering_of_mem_deeds hm
  have hlater : ∀ {before deed later}, deeds = before ++ deed :: later →
      deed.Answering ∧ ∀ other ∈ later, other.Answering := by
    intro before deed later he
    refine ⟨hall deed (by rw [he]; simp), fun other ho => hall other (by rw [he]; simp [ho])⟩
  refine ⟨?_, ?_⟩
  · rw [hg, ← Option.isSome_iff_exists, Option.isSome_map, Mark.standing_isSome_iff]
    constructor
    · rintro ⟨before, deed, later, time, he, hm, hc⟩
      refine ⟨before, deed, later, he, (Deed.launches_iff (hlater he).1).2 ⟨time, hm⟩, ?_⟩
      intro other ho hf
      exact hc other ho ((Deed.mark_eq_cleared ((hlater he).2 other ho)).2 hf)
    · rintro ⟨before, deed, later, he, hl, hf⟩
      obtain ⟨time, hm⟩ := (Deed.launches_iff (hlater he).1).1 hl
      refine ⟨before, deed, later, time, he, hm, ?_⟩
      intro other ho hc
      exact hf other ho ((Deed.mark_eq_cleared ((hlater he).2 other ho)).1 hc)
  · intro record hr
    rw [hg, Option.map_eq_some_iff] at hr
    obtain ⟨time, hstands, rfl⟩ := hr
    obtain ⟨before, deed, later, he, hm, hleft⟩ := Mark.standing_eq_some_iff.1 hstands
    obtain ⟨launch, rfl, hn, hl, hat⟩ := (Deed.mark_eq_set (hlater he).1).1 hm
    refine ⟨before, launch, later, time, he, hn, hl, hat, ?_, ?_⟩
    · intro other ho
      exact (Deed.mark_eq_left ((hlater he).2 other ho)).1 (hleft other ho)
    · rw [lockTaken, Span.effectiveTtl, if_pos ht]

/-- A launch takes the lock; when it has expired a resubmitted launch takes it over, and gives it
back when its pod is not created. -/
theorem lock_given_back_after_takeover :
    let world := Crew.sampleWorld [none, some (.timeout "no answer")]
    let name := Crew.sampleEvent.lockName
    let operations : List Operation :=
      [.launch Crew.sampleEvent, .wait 2000000, .defer Crew.sampleEvent, .relaunch]
    world.locks = .empty ∧ world.Answering ∧ world.ttl.nanos ≤ Span.longestTtl ∧
    (∃ before deed later,
      world.deeds Recorder.cluster (operations.take 3) = before ++ deed :: later ∧
        deed.Launches Recorder.cluster name ∧
        ∀ other ∈ later, ¬ other.Frees Recorder.cluster name) ∧
    ¬ ∃ before deed later,
      world.deeds Recorder.cluster operations = before ++ deed :: later ∧
        deed.Launches Recorder.cluster name ∧
        ∀ other ∈ later, ¬ other.Frees Recorder.cluster name := by
  intro world name operations
  have ha : world.Answering := ⟨rfl, rfl⟩
  have ht : world.ttl.nanos ≤ Span.longestTtl := by decide
  refine ⟨rfl, ha, ht, ?_, ?_⟩
  · have hsome : ((world.performAll Recorder.cluster (operations.take 3)).locks.get? name).isSome =
        true := by decide +kernel
    exact (lock_iff_launched _ world rfl ha ht _ name).1.1 (Option.isSome_iff_exists.1 hsome)
  · intro h
    obtain ⟨record, hr⟩ := (lock_iff_launched _ world rfl ha ht operations name).1.2 h
    have hnone : (world.performAll Recorder.cluster operations).locks.get? name = none := by
      decide +kernel
    rw [hnone] at hr
    cases hr

end World

end BuildScheduler
