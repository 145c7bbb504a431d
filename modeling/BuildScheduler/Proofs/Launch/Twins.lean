import BuildScheduler.Proofs.Launch.Likeness

/-!
# Worlds that differ in identifiers

Identifiers are kept in three places: the supply that gives them out, the queue, and whatever the
cluster does with the pods that it is sent. Twins differ in these places only. In twins a build is
launched alike, if the cluster does not look at identifiers; in one world it is launched to the
letter alike, whatever its event brings along.
-/

namespace BuildScheduler

/-! ## Other identifiers -/

namespace BuildEvent

def withId (id : BuildId) (event : BuildEvent) : BuildEvent := { event with id := some id }

def unstamped (event : BuildEvent) : BuildEvent := { event with deferredAt := none }

def trigger (event : BuildEvent) : BuildEvent :=
  { team := event.team, project := event.project, ref := event.ref }

theorem agrees_trigger (event : BuildEvent) : event.Agrees event.trigger := ⟨rfl, rfl, rfl⟩

end BuildEvent

/-- A build container with another identifier; others know of none. -/
def Container.withId (id : BuildId) (container : Container) : Container :=
  if container.name = buildContainerName then
    { container with
      env := container.env.map fun var =>
        if var.name = "BUILD_ID" then .literal "BUILD_ID" id.toText else var }
  else container

def PodSpec.withId (id : BuildId) (spec : PodSpec) : PodSpec :=
  { spec with name := id.toText, containers := spec.containers.map (Container.withId id) }

def LaunchOutcome.withId (id : BuildId) : LaunchOutcome → LaunchOutcome
  | .launched _ => .launched id
  | .failed _ cause => .failed id cause
  | outcome => outcome

namespace Call

def withId (id : BuildId) : Call → Call
  | .defer event answer => .defer (event.withId id) answer
  | .create spec answer => .create (spec.withId id) answer
  | call => call

/-- Without the stamp of an earlier deferral, which the queue replaces by its own. -/
def unstamped : Call → Call
  | .defer event answer => .defer event.unstamped answer
  | call => call

end Call

def PodSpec.Twins (p q : PodSpec) : Prop := ∀ id, p.withId id = q.withId id

namespace PodTemplate

variable (template : PodTemplate) (event : BuildEvent) (project : Project)

theorem name_ne_of_mem_sidecars {project : Project} {container : Container}
    (h : container ∈ sidecars project) : container.name ≠ buildContainerName := by
  obtain ⟨text, -, ht⟩ := List.mem_filterMap.1 h
  exact (sidecar?_eq_some_iff.1 ht).2

theorem withId_buildContainer (id other : BuildId) :
    (buildContainer event id project).withId other = buildContainer event other project := by
  simp [Container.withId, buildContainer, EnvVar.literal]

/-- The identifier of a pod is nowhere but in its name and its build container. -/
theorem withId_buildPod (id other : BuildId) :
    (template.buildPod event id project).withId other = template.buildPod event other project := by
  have hs : (sidecars project).map (Container.withId other) = sidecars project := by
    refine List.map_congr_left (fun container hm => ?_) |>.trans (List.map_id _)
    exact if_neg (name_ne_of_mem_sidecars hm)
  simp only [PodSpec.withId, buildPod, List.map_cons, withId_buildContainer, hs]

end PodTemplate

theorem BuildEvent.Agrees.buildPod_eq {a b : BuildEvent} (h : a.Agrees b) (template : PodTemplate)
    (id : BuildId) (project : Project) :
    template.buildPod a id project = template.buildPod b id project := by
  simp only [PodTemplate.buildPod, PodTemplate.buildContainer, h.labels_eq, h.projectKey_eq,
    h.lockName_eq, h.ref]

/-! ## One world -/

/-- Everything is the same but the stamps of events. -/
def Likeness.same (κ : Type) : Likeness (World κ) := ⟨Eq, Eq, Eq⟩

namespace Likeness

variable {κ : Type}

theorem Events.eq_of_same {a b : BuildEvent} (h : (same κ).Events a b) :
    b = { a with deferredAt := b.deferredAt } := by
  obtain ⟨⟨ht, hp, hr⟩, hi⟩ := h
  have hid : a.id = b.id := by
    generalize a.id = i at hi ⊢
    generalize b.id = j at hi ⊢
    cases hi with
    | some h => exact congrArg some h
    | none => rfl
  rw [ht, hp, hr, hid]

/-- The queue replaces the stamp that an event comes with. -/
theorem deferBuild_of_same {a b : BuildEvent} (h : (same κ).Events a b) (world : World κ) :
    world.deferBuild a = world.deferBuild b := by
  rw [h.eq_of_same]
  rfl

theorem respects_same (cluster : Cluster κ) : (same κ).Respects (World.collaborators cluster) where
  isOpen := by rintro s _ rfl; rfl
  project? := by rintro s _ rfl key; rfl
  mint := by rintro s _ rfl; exact ⟨rfl, rfl⟩
  assemble := by
    rintro s _ a b i _ rfl h rfl project
    exact h.agrees.buildPod_eq s.template i project
  now := by rintro s _ rfl; rfl
  ttl := by rintro s _ rfl; rfl
  put := by rintro s _ rfl record now; exact ⟨rfl, rfl⟩
  delete := by rintro s _ rfl name; exact ⟨rfl, rfl⟩
  defer := by
    rintro s _ a b rfl h
    have he := deferBuild_of_same h s
    exact ⟨congrArg Prod.fst he, congrArg Prod.snd he⟩
  create := by rintro s _ p _ rfl rfl; exact ⟨rfl, rfl⟩

theorem Results.eq_of_same {r s : Result LaunchOutcome} (h : (same κ).Results r s) : r = s := by
  cases h with
  | launched h => cases h; rfl
  | failed h cause => cases h; rfl
  | _ => rfl

theorem Endings.eq_of_same {r s : Option (Result LaunchOutcome)} (h : (same κ).Endings r s) :
    r = s := by
  cases h with
  | some h => exact congrArg some h.eq_of_same
  | none => rfl

theorem Calls.unstamped_of_same {c d : Call} (h : (same κ).Calls c d) :
    c.unstamped = d.unstamped := by
  cases h with
  | @defer a b h answer =>
      rw [h.eq_of_same]
      rfl
  | create h answer => cases h; rfl
  | _ => rfl

end Likeness

/-! ## Twins -/

def DeferralQueue.Twins (a b : DeferralQueue) : Prop :=
  ∀ id, a.entries.map (·.withId id) = b.entries.map (·.withId id)

/-- A cluster whose answers to creations do not depend on identifiers, over what it keeps. -/
def Cluster.Blind (cluster : Cluster κ) (alike : κ → κ → Prop) : Prop :=
  ∀ time {s t : κ} {p q : PodSpec}, alike s t → p.Twins q →
    (cluster.create time p s).1 = (cluster.create time q t).1 ∧
      alike (cluster.create time p s).2 (cluster.create time q t).2

inductive World.Twins (alike : κ → κ → Prop) : World κ → World κ → Prop where
  | intro (world : World κ) {cluster : κ} {queue : DeferralQueue} (ids : IdSupply)
      (hc : alike world.cluster cluster) (hq : world.queue.Twins queue) :
      Twins alike world { world with cluster, ids, queue }

namespace DeferralQueue.Twins

variable {q r : DeferralQueue} (h : q.Twins r)
include h

theorem lockNames_eq : q.lockNames = r.lockNames := by
  have hn := congrArg (List.map BuildEvent.lockName) (h default)
  rwa [List.map_map, List.map_map] at hn

theorem contains_eq (name : String) : q.contains name = r.contains name := by
  rw [Bool.eq_iff_iff, contains_iff, contains_iff, h.lockNames_eq]

theorem defer {a b : BuildEvent} (hab : a.Agrees b) (now : Instant) :
    (q.defer a now).Twins (r.defer b now) := by
  unfold DeferralQueue.defer
  rw [h.contains_eq, hab.lockName_eq]
  split
  · exact h
  · intro id
    rw [List.map_append, List.map_append, h id]
    simp only [List.map_cons, List.map_nil, BuildEvent.withId, hab.team, hab.project, hab.ref]

end DeferralQueue.Twins

/-- Everything is the same but identifiers and the stamps of events. -/
def Likeness.twins (alike : κ → κ → Prop) : Likeness (World κ) :=
  ⟨fun _ _ => True, PodSpec.Twins, World.Twins alike⟩

namespace Likeness

variable {alike : κ → κ → Prop} {cluster : Cluster κ}

theorem respects_twins (hb : cluster.Blind alike) :
    (twins alike).Respects (World.collaborators cluster) where
  isOpen := by rintro s _ ⟨ids, hc, hq⟩; rfl
  project? := by rintro s _ ⟨ids, hc, hq⟩ key; rfl
  mint := by
    rintro s _ ⟨ids, hc, hq⟩
    exact ⟨trivial, .intro s.mint.2 _ hc hq⟩
  assemble := by
    rintro s _ a b i j ⟨ids, hc, hq⟩ h - project id
    exact (PodTemplate.withId_buildPod _ _ _ _ _).trans <|
      (h.agrees.buildPod_eq _ _ _).trans (PodTemplate.withId_buildPod _ _ _ _ _).symm
  now := by rintro s _ ⟨ids, hc, hq⟩; rfl
  ttl := by rintro s _ ⟨ids, hc, hq⟩; rfl
  put := by
    rintro s _ ⟨ids, hc, hq⟩ record now
    simp only [World.collaborators, World.putLock]
    rcases s.lockOutages.put.next with ⟨failure, put⟩
    cases failure with
    | some reason => exact ⟨rfl, .intro _ ids hc hq⟩
    | none => exact ⟨rfl, .intro { s with lockOutages := _, locks := _ } ids hc hq⟩
  delete := by
    rintro s _ ⟨ids, hc, hq⟩ name
    simp only [World.collaborators, World.deleteLock]
    rcases s.lockOutages.delete.next with ⟨failure, delete⟩
    cases failure with
    | some reason => exact ⟨rfl, .intro _ ids hc hq⟩
    | none => exact ⟨rfl, .intro { s with lockOutages := _, locks := _ } ids hc hq⟩
  defer := by
    rintro s _ a b ⟨ids, hc, hq⟩ h
    simp only [World.collaborators, World.deferBuild]
    rcases s.queueOutages.defer.next with ⟨failure, defer⟩
    cases failure with
    | some reason =>
        have hf : (StoreCall.defer a).failure reason = (StoreCall.defer b).failure reason :=
          congrArg (Error.storage · reason) h.agrees.lockName_eq
        exact ⟨congrArg Except.error hf, .intro _ ids hc hq⟩
    | none =>
        exact ⟨rfl, .intro { s with queueOutages := _, queue := _ } ids hc (hq.defer h.agrees _)⟩
  create := by
    rintro s _ p q ⟨ids, hc, hq⟩ hp
    obtain ⟨hreply, hkept⟩ := hb s.clock hc hp
    simp only [World.collaborators, World.createPod, World.answered]
    rw [hreply]
    exact ⟨rfl, .intro { s with cluster := _, clock := _ } ids hkept hq⟩

theorem Results.withId_of_twins {r s : Result LaunchOutcome} (h : (twins alike).Results r s)
    (id : BuildId) : r.map (LaunchOutcome.withId id) = s.map (LaunchOutcome.withId id) := by
  cases h with
  | _ => rfl

theorem Endings.withId_of_twins {r s : Option (Result LaunchOutcome)}
    (h : (twins alike).Endings r s) (id : BuildId) :
    r.map (·.map (LaunchOutcome.withId id)) = s.map (·.map (LaunchOutcome.withId id)) := by
  cases h with
  | some h => exact congrArg some (h.withId_of_twins id)
  | none => rfl

theorem Calls.withId_of_twins {c d : Call} (h : (twins alike).Calls c d) (id : BuildId) :
    (c.withId id).unstamped = (d.withId id).unstamped := by
  cases h with
  | @defer a b h answer =>
      obtain ⟨⟨ht, hp, hr⟩, -⟩ := h
      simp only [Call.withId, Call.unstamped, BuildEvent.withId, BuildEvent.unstamped, ht, hp, hr]
  | create h answer => exact congrArg (Call.create · answer) (h id)
  | _ => rfl

end Likeness

/-! ## The recording cluster -/

def Recorder.Twins (a b : Recorder) : Prop :=
  ∃ created, b = { a with created } ∧
    ∀ id, a.created.map (PodSpec.withId id) = created.map (PodSpec.withId id)

theorem Recorder.twins_refl (recorder : Recorder) : recorder.Twins recorder :=
  ⟨recorder.created, rfl, fun _ => rfl⟩

/-- What is recorded of a pod does not decide the answer. -/
theorem Recorder.blind_cluster : Recorder.cluster.Blind Recorder.Twins := by
  rintro time s _ p q ⟨created, rfl, hcreated⟩ hp
  simp only [cluster, create]
  rcases s.createOutages.next with ⟨failure, outages⟩
  cases failure with
  | some error => exact ⟨rfl, created, rfl, hcreated⟩
  | none =>
      refine ⟨rfl, created ++ [q], rfl, fun id => ?_⟩
      rw [List.map_append, List.map_append, hcreated id, List.map_singleton, List.map_singleton,
        hp id]

end BuildScheduler
