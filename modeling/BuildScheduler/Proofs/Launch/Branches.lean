import BuildScheduler.Proofs.Concurrency.Crew
import BuildScheduler.Proofs.Launch.Twins
import BuildScheduler.Proofs.Resubmission.Launches

/-!
# Launches of different branches

A launch is decided by what its world shows under its own lock name, and whatever it leaves behind
belongs to that name: its footprint. A launch of another name changes nothing that the footprint is
made from, so two launches of different names come to the same in either order.
-/

namespace BuildScheduler

/-- A cluster that answers a creation at once, and by the lock name of the pod alone. -/
def Cluster.AnswersByLock (cluster : Cluster κ) (answer : Option String → Result Unit) : Prop :=
  ∀ time spec kept, (cluster.create time spec kept).1 = { result := answer spec.lockName? }

def Cluster.refusing (name : String) : Cluster Unit where
  name := "refusing"
  create _ spec _ :=
    ({ result := if spec.lockName? = some name then .error (.internal "refused") else .ok () }, ())
  delete _ _ _ := ({ result := .ok () }, ())

theorem Cluster.answersByLock_refusing (name : String) :
    (Cluster.refusing name).AnswersByLock
      (fun lockName? => if lockName? = some name then .error (.internal "refused") else .ok ()) :=
  fun _ _ _ => rfl

def Call.created? : Call → Option PodSpec
  | .create spec (.ok ()) => some spec
  | _ => none

def LaunchAt.created (cluster : Cluster κ) (launch : LaunchAt κ) : List PodSpec :=
  (launch.calls cluster).filterMap Call.created?

/-- What a launch answers, and what it leaves behind under its own lock name: the record that
stands there, the entries that it queued and the pods that it created. -/
structure Footprint where
  result : Option (Result LaunchOutcome)
  record : Option LockRecord
  queued : List BuildEvent := []
  created : List PodSpec := []

namespace World

/-! ## The footprint of a launch -/

section Footprint

variable (answer : Option String → Result Unit) (id : BuildId) (event : BuildEvent)
  (world : World κ)

def refusal : Option (Result LaunchOutcome) := some <|
  if world.gate.isOpen then
    match world.catalog.find? event.projectKey with
    | some _ => .error (.refNotManaged event.projectKey event.ref)
    | none => .error (.projectNotFound event.projectKey)
  else .ok .queueClosed

def queuedEntry : BuildEvent := { event with id := some id, deferredAt := some world.now }

/-- The footprint of a launch that is given an identifier, over a cluster that answers by lock
names. -/
def footprint : Footprint :=
  let held := world.locks.get? event.lockName
  if !world.admits event then { result := world.refusal event, record := held }
  else if ¬ world.ttl.Fits world.now then { result := none, record := held }
  else if world.locks.isHeld event.lockName world.now then
    { result := some (.ok (.deferred event.lockName))
      record := held
      queued := if world.queue.contains event.lockName then [] else [world.queuedEntry id event] }
  else
    match answer (some event.lockName) with
    | .ok () =>
        { result := some (.ok (.launched id))
          record := some (world.lockRecord event)
          created := (world.catalog.find? event.projectKey).toList.map
            (world.template.buildPod event id) }
    | .error error => { result := some (.ok (.failed id error.asPodCreation)), record := none }

end Footprint

/-- A launch leaves a footprint, up to its identifier, and nothing else. -/
structure Leaves (id : BuildId) (event : BuildEvent) (world : World κ)
    (ending : Option (Result LaunchOutcome)) (after : World κ) (calls : List Call)
    (print : Footprint) : Prop where
  result : ending.map (·.map (LaunchOutcome.withId id)) = print.result
  record : after.locks.get? event.lockName = print.record
  queued : ∀ entries, after.queue.entries = world.queue.entries ++ entries →
    entries.map (·.withId id) = print.queued
  created : (calls.filterMap Call.created?).map (·.withId id) = print.created

/-- What a launch of any other name goes by: the world as it was, but for identifiers and for what
stands under the name of the launch. -/
structure AgreesBeside (name : String) (world after : World κ) : Prop where
  gate : after.gate = world.gate
  catalog : after.catalog = world.catalog
  template : after.template = world.template
  ttl : after.ttl = world.ttl
  now : after.now = world.now
  record : ∀ other, other ≠ name → after.locks.get? other = world.locks.get? other
  queued : ∀ other, other ≠ name →
    after.queue.entries.filter (·.lockName == other) =
      world.queue.entries.filter (·.lockName == other)

/-! ## Events that are turned away -/

section TurnedAway

variable {cluster : Cluster κ} {event : BuildEvent} {world : World κ}

theorem refusal_of_launch (h : world.admits event = false) :
    (world.launch cluster event).1 = world.refusal event := by
  unfold admits at h
  unfold refusal
  cases ho : world.gate.isOpen with
  | false =>
      exact congrArg Prod.fst (Site.launch_of_closed (site cluster) ho)
  | true =>
      rw [ho, Bool.true_and] at h
      cases hp : world.catalog.find? event.projectKey with
      | none =>
          exact congrArg Prod.fst (Site.launch_of_unknown (site cluster) ho hp)
      | some project =>
          rw [hp, Option.any_some] at h
          exact congrArg Prod.fst (Site.launch_of_unmanaged (site cluster) ho hp h)

end TurnedAway

/-! ## Every launch leaves its footprint -/

section Left

variable {cluster : Cluster κ} {answer : Option String → Result Unit} {event : BuildEvent}
  {world : World κ} {project : Project}

/-- The answer to the pod of an event is the one for its lock name. -/
theorem submission_of_answersByLock (hc : cluster.AnswersByLock answer) :
    (world.submission event project cluster).1 = answer (some event.lockName) := by
  have hcreate := hc (world.locked event).clock (world.pod event project)
    (world.locked event).cluster
  have hname : (world.pod event project).lockName? = some event.lockName := by
    unfold pod
    exact PodTemplate.lockName?_buildPod _ _ _ _
  rw [hname] at hcreate
  show (cluster.create _ _ _).1.result = _
  exact congrArg Reply.result hcreate

theorem withId_pod (id : BuildId) :
    (world.pod event project).withId id = world.template.buildPod event id project := by
  have hagrees : (world.identified event).Agrees event := ⟨rfl, rfl, rfl⟩
  unfold pod
  rw [PodTemplate.withId_buildPod]
  exact hagrees.buildPod_eq _ _ _

theorem entries_requeued (event : BuildEvent) (world : World κ) :
    (world.requeued event).queue.entries = world.queue.entries ++
      if world.queue.contains event.lockName then []
      else [world.queuedEntry world.mint.1 event] := by
  show (world.queue.defer (world.identified event) world.now).entries = _
  unfold DeferralQueue.defer
  have hname : (world.identified event).lockName = event.lockName := rfl
  rw [hname]
  split
  · rw [List.append_nil]
  · rfl

/-- Added entries that are none are as they should be. -/
theorem map_eq_nil_of_append (id : BuildId) {entries added : List BuildEvent}
    (he : entries = entries ++ added) : added.map (·.withId id) = [] := by
  have hnil : added = [] := List.append_right_eq_self.1 he.symm
  rw [hnil]
  rfl

theorem leaves_launch (hc : cluster.AnswersByLock answer) (h : world.Answering) (id : BuildId) :
    Leaves id event world (world.launch cluster event).1 (world.launch cluster event).2
      ((collaborators cluster).transcript event world).2 (world.footprint answer id event) := by
  have hcourse := launch_course cluster event h
  have hrefusal : world.admits event = false →
      (world.launch cluster event).1 = world.refusal event := refusal_of_launch
  generalize (world.launch cluster event).1 = ending at hcourse hrefusal ⊢
  generalize (world.launch cluster event).2 = after at hcourse ⊢
  generalize ((collaborators cluster).transcript event world).2 = calls at hcourse ⊢
  dsimp only [footprint]
  cases hcourse with
  | turnedAway _ ha =>
      rw [hrefusal ha, ha]
      refine ⟨?_, rfl, fun _ => map_eq_nil_of_append id, rfl⟩
      -- none of the refusals carries an identifier
      unfold refusal
      split
      · split
        · rfl
        · rfl
      · rfl
  | panicked ha hf =>
      rw [ha, if_pos hf]
      exact ⟨rfl, rfl, fun _ => map_eq_nil_of_append id, rfl⟩
  | deferred ha hf hh =>
      rw [ha, if_neg (not_not_intro hf), hh]
      refine ⟨rfl, rfl, fun entries he => ?_, rfl⟩
      rw [entries_requeued] at he
      rw [← List.append_cancel_left he]
      show _ = if _ then _ else _
      split
      · rfl
      · rfl
  | launched project ha hp hf hh hs =>
      rw [submission_of_answersByLock hc] at hs
      rw [ha, if_neg (not_not_intro hf), hh, hs, hp]
      refine ⟨rfl, ?_, fun _ => map_eq_nil_of_append id, ?_⟩
      · show (world.locked event).locks.get? event.lockName = _
        exact (LockStore.get?_write _ _ _).trans (if_pos rfl)
      · exact congrArg (· :: []) (withId_pod id)
  | uncreated project error ha hp hf hh hs =>
      rw [submission_of_answersByLock hc] at hs
      rw [ha, if_neg (not_not_intro hf), hh, hs]
      refine ⟨rfl, ?_, fun _ => map_eq_nil_of_append id, rfl⟩
      exact (LockStore.get?_delete _ _ _).trans (if_pos rfl)

end Left

/-! ## Other names -/

section Beside

variable {cluster : Cluster κ} {answer : Option String → Result Unit} {event : BuildEvent}
  {world after : World κ} {ending : Option (Result LaunchOutcome)} {calls : List Call}

/-- A launch takes no entry out of the queue. -/
theorem Course.entries_eq (course : Course cluster event world ending after calls) :
    ∃ added, after.queue.entries = world.queue.entries ++ added := by
  cases course with
  | deferred => exact ⟨_, entries_requeued event world⟩
  | _ => exact ⟨[], (List.append_nil _).symm⟩

/-- The entries of other names stand as they did. -/
theorem Course.filter_entries (course : Course cluster event world ending after calls)
    {other : String} (hn : other ≠ event.lockName) :
    after.queue.entries.filter (·.lockName == other) =
      world.queue.entries.filter (·.lockName == other) := by
  cases course with
  | deferred =>
      rw [entries_requeued, List.filter_append]
      have hnew : ∀ entry ∈ (if world.queue.contains event.lockName then []
          else [world.queuedEntry world.mint.1 event]), ¬ (entry.lockName == other) = true := by
        intro entry hm
        split at hm
        · cases hm
        · rw [List.mem_singleton.1 hm]
          show ¬ (event.lockName == other) = true
          simpa using hn.symm
      rw [List.filter_eq_nil_iff.2 hnew, List.append_nil]
  | _ => rfl

theorem Course.template_eq (course : Course cluster event world ending after calls) :
    after.template = world.template := by
  cases course with
  | _ => rfl

/-- A launch takes no time while the cluster answers at once. -/
theorem Course.clock_eq (course : Course cluster event world ending after calls)
    (hc : cluster.AnswersByLock answer) : after.clock = world.clock := by
  have hsubmission : ∀ project,
      (world.submission event project cluster).2.clock = world.clock := by
    intro project
    show world.clock + (cluster.create _ _ _).1.elapsed = world.clock
    rw [hc]
    rfl
  cases course with
  | turnedAway => rfl
  | panicked => rfl
  | deferred => rfl
  | launched project => exact hsubmission project
  | uncreated project => exact hsubmission project

theorem agreesBeside_launch (hc : cluster.AnswersByLock answer) (h : world.Answering)
    (event : BuildEvent) :
    AgreesBeside event.lockName world (world.launch cluster event).2 := by
  have hcourse := launch_course cluster event h
  refine ⟨hcourse.gate_eq, hcourse.catalog_eq, hcourse.template_eq, hcourse.ttl_eq, ?_,
    fun _ => hcourse.get?_of_ne, fun _ => hcourse.filter_entries⟩
  unfold now
  rw [hcourse.start_eq, hcourse.clock_eq hc]

/-- A launch is decided by what the world shows under its own lock name. -/
theorem AgreesBeside.footprint_eq {name : String} (h : AgreesBeside name world after)
    (hn : event.lockName ≠ name) (answer : Option String → Result Unit) (id : BuildId) :
    after.footprint answer id event = world.footprint answer id event := by
  have hrecord := h.record event.lockName hn
  have hadmits : after.admits event = world.admits event := by
    unfold admits
    rw [h.gate, h.catalog]
  have hrefusal : after.refusal event = world.refusal event := by
    unfold refusal
    rw [h.gate, h.catalog]
  have hheld : after.locks.isHeld event.lockName world.now =
      world.locks.isHeld event.lockName world.now := by
    unfold LockStore.isHeld
    rw [hrecord]
  have hcontains : after.queue.contains event.lockName = world.queue.contains event.lockName := by
    have hany : ∀ queue : DeferralQueue, queue.contains event.lockName =
        !(queue.entries.filter (·.lockName == event.lockName)).isEmpty := by
      intro queue
      unfold DeferralQueue.contains
      rw [Bool.eq_iff_iff]
      simp
    rw [hany, hany, h.queued event.lockName hn]
  unfold footprint queuedEntry lockRecord
  rw [hadmits, hrefusal, h.now, hheld, hrecord, hcontains, h.catalog, h.template, h.ttl]

end Beside

/-! ## Either order -/

/-- The launch of a second event in the world that the launch of a first one leaves. -/
def secondLaunch (cluster : Cluster κ) (first second : BuildEvent) (world : World κ) :
    LaunchAt κ := ⟨second, (LaunchAt.mk first world).after cluster⟩

section EitherOrder

variable {cluster : Cluster κ} {answer : Option String → Result Unit} {world : World κ}
  (hc : cluster.AnswersByLock answer) (h : world.Answering) {a b : BuildEvent}
  (hn : a.lockName ≠ b.lockName)

include hc h hn

/-- A launch after one of another name leaves the footprint that it would have left before it. -/
theorem leaves_secondLaunch (id : BuildId) :
    Leaves id b ((LaunchAt.mk a world).after cluster)
      ((world.secondLaunch cluster a b).result cluster)
      ((world.secondLaunch cluster a b).after cluster)
      ((world.secondLaunch cluster a b).calls cluster) (world.footprint answer id b) := by
  have hbeside := agreesBeside_launch hc h a
  have hanswering : (world.launch cluster a).2.Answering := h.launch a
  rw [← hbeside.footprint_eq hn.symm answer id]
  exact leaves_launch hc hanswering id

/-- The first of two launches leaves its record and the second one its own; all others stand. -/
theorem get?_secondLaunch (id : BuildId) (name : String) :
    ((world.secondLaunch cluster a b).after cluster).locks.get? name =
      if name = b.lockName then (world.footprint answer id b).record
      else if name = a.lockName then (world.footprint answer id a).record
      else world.locks.get? name := by
  have hfirst : Leaves id a world _ (world.launch cluster a).2 _ _ := leaves_launch hc h id
  have hanswering : (world.launch cluster a).2.Answering := h.launch a
  have hbeside := agreesBeside_launch hc h a
  have hagain := agreesBeside_launch hc hanswering b
  by_cases hb : name = b.lockName
  · rw [if_pos hb, hb]
    exact (leaves_secondLaunch hc h hn id).record
  · rw [if_neg hb]
    have hlast : ((world.secondLaunch cluster a b).after cluster).locks.get? name =
        (world.launch cluster a).2.locks.get? name := hagain.record name hb
    rw [hlast]
    by_cases ha : name = a.lockName
    · rw [if_pos ha, ha, hfirst.record]
    · rw [if_neg ha, hbeside.record name ha]

/-- Both launches add entries at the end of the queue, the first one's before the second one's. -/
theorem entries_secondLaunch :
    ∃ added, ((world.secondLaunch cluster a b).after cluster).queue.entries =
        world.queue.entries ++ added ∧
      ∀ id, added.map (·.withId id) =
        (world.footprint answer id a).queued ++ (world.footprint answer id b).queued := by
  have hanswering : (world.launch cluster a).2.Answering := h.launch a
  obtain ⟨addedA, hA⟩ := (launch_course cluster a h).entries_eq
  obtain ⟨addedB, hB⟩ := (launch_course cluster b hanswering).entries_eq
  refine ⟨addedA ++ addedB, ?_, fun id => ?_⟩
  · rw [← List.append_assoc, ← hA]
    exact hB
  · rw [List.map_append, (leaves_launch hc h id).queued addedA hA,
      (leaves_secondLaunch hc h hn id).queued addedB hB]

end EitherOrder

/-- Builds of different branches do not interfere, over stores in memory:

A launch leaves the records and the queued entries of all other lock names as they are.

Over a cluster that answers creations at once and by the lock name of the pod, two launches of
different lock names come to the same in either order. Each event gets the same answer, every lock
name has the same record, the pods created are the same, and each order adds the same entries to
the end of the queue; identifiers are left out of account. -/
theorem branches_independent (cluster : Cluster κ) (world : World κ) (h : world.Answering)
    (a : BuildEvent) :
    (∀ name, name ≠ a.lockName →
      (world.launch cluster a).2.locks.get? name = world.locks.get? name ∧
      (world.launch cluster a).2.queue.entries.filter (·.lockName == name) =
        world.queue.entries.filter (·.lockName == name)) ∧
    ∀ answer, cluster.AnswersByLock answer → ∀ b : BuildEvent, a.lockName ≠ b.lockName →
      let firstA : LaunchAt κ := ⟨a, world⟩
      let thenB := world.secondLaunch cluster a b
      let firstB : LaunchAt κ := ⟨b, world⟩
      let thenA := world.secondLaunch cluster b a
      (∀ id, (firstA.result cluster).map (·.map (LaunchOutcome.withId id)) =
          (thenA.result cluster).map (·.map (LaunchOutcome.withId id)) ∧
        (thenB.result cluster).map (·.map (LaunchOutcome.withId id)) =
          (firstB.result cluster).map (·.map (LaunchOutcome.withId id))) ∧
      (∀ name, (thenB.after cluster).locks.get? name = (thenA.after cluster).locks.get? name) ∧
      (∀ id, ((firstA.created cluster ++ thenB.created cluster).map (·.withId id)).Perm
        ((firstB.created cluster ++ thenA.created cluster).map (·.withId id))) ∧
      ∃ added added' : List BuildEvent,
        (thenB.after cluster).queue.entries = world.queue.entries ++ added ∧
        (thenA.after cluster).queue.entries = world.queue.entries ++ added' ∧
        ∀ id, (added.map (·.withId id)).Perm (added'.map (·.withId id)) := by
  refine ⟨fun name hn => ?_, fun answer hc b hn => ?_⟩
  · have hcourse := launch_course cluster a h
    exact ⟨hcourse.get?_of_ne hn, hcourse.filter_entries hn⟩
  · intro firstA thenB firstB thenA
    have hfirstA : ∀ id, Leaves id a world _ (firstA.after cluster) _ _ :=
      fun id => leaves_launch hc h id
    have hfirstB : ∀ id, Leaves id b world _ (firstB.after cluster) _ _ :=
      fun id => leaves_launch hc h id
    have hthenB := leaves_secondLaunch hc h hn
    have hthenA := leaves_secondLaunch hc h hn.symm
    refine ⟨fun id => ?_, fun name => ?_, fun id => ?_, ?_⟩
    · exact ⟨(hfirstA id).result.trans (hthenA id).result.symm,
        (hthenB id).result.trans (hfirstB id).result.symm⟩
    · rw [get?_secondLaunch hc h hn default, get?_secondLaunch hc h hn.symm default]
      by_cases ha : name = a.lockName
      · have hb : ¬ name = b.lockName := fun he => hn (ha.symm.trans he)
        rw [if_neg hb, if_pos ha, if_pos ha]
      · rw [if_neg ha, if_neg ha]
    · have hA := (hfirstA id).created
      have hB := (hfirstB id).created
      rw [List.map_append, List.map_append]
      have hAB : (firstA.created cluster).map (·.withId id) ++
          (thenB.created cluster).map (·.withId id) = _ ++ _ :=
        congrArg₂ (· ++ ·) hA (hthenB id).created
      have hBA : (firstB.created cluster).map (·.withId id) ++
          (thenA.created cluster).map (·.withId id) = _ ++ _ :=
        congrArg₂ (· ++ ·) hB (hthenA id).created
      rw [hAB, hBA]
      exact List.perm_append_comm
    · obtain ⟨added, hadded, hqueued⟩ := entries_secondLaunch hc h hn
      obtain ⟨added', hadded', hqueued'⟩ := entries_secondLaunch hc h hn.symm
      refine ⟨added, added', hadded, hadded', fun id => ?_⟩
      rw [hqueued, hqueued']
      exact List.perm_append_comm

/-- Two branches of one project, the pods of the first of which are refused. -/
theorem branches_independent_refused :
    let cluster := Cluster.refusing "acme/widgets/main"
    let sample := Crew.sampleWorld []
    let world : World Unit :=
      { cluster := ()
        start := sample.start
        catalog := sample.catalog
        template := sample.template
        ttl := sample.ttl }
    let main := Crew.sampleEvent
    let next : BuildEvent := { Crew.sampleEvent with ref := "next" }
    let thenNext := world.secondLaunch cluster main next
    let thenMain := world.secondLaunch cluster next main
    world.Answering ∧ main.lockName ≠ next.lockName ∧
    (∃ answer, cluster.AnswersByLock answer) ∧
    world.admits main = true ∧ world.admits next = true ∧
    (thenNext.created cluster).length = 1 ∧
    (world.launch cluster main).2.locks.get? next.lockName = world.locks.get? next.lockName ∧
    ∀ name, (thenNext.after cluster).locks.get? name = (thenMain.after cluster).locks.get? name := by
  intro cluster sample world main next thenNext thenMain
  have h : world.Answering := ⟨rfl, rfl⟩
  have hn : main.lockName ≠ next.lockName := by decide
  have hc := Cluster.answersByLock_refusing "acme/widgets/main"
  obtain ⟨hframe, heither⟩ := branches_independent cluster world h main
  obtain ⟨-, hrecords, -, -⟩ := heither _ hc next hn
  refine ⟨h, hn, ⟨_, hc⟩, by decide +kernel, by decide +kernel, by decide +kernel, ?_, hrecords⟩
  exact (hframe next.lockName hn.symm).1

end World

end BuildScheduler
