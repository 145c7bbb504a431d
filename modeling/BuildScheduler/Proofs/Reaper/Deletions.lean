import BuildScheduler.Kubernetes.Pod
import BuildScheduler.Reaper

/-!
# Deletions of finished pods

The sights of pods are dealt with one after another, in any order and any number, while the cluster
answers deletions as it likes. Each sight asks for at most one deletion. `deletes_until_done` says
when it does: the build of the pod has finished, and no deletion of that name has succeeded yet.
-/

namespace BuildScheduler

/-! ## Finished builds -/

/-- The container ran the build: it terminated with an identifier that is not empty. -/
def ContainerObservation.RanBuild (container : ContainerObservation) : Prop :=
  container.name = "build-server" ∧ ∃ termination id, container.terminated = some termination ∧
    termination.containerId = some id ∧ id ≠ ""

def PodObservation.RanBuild (pod : PodObservation) : Prop :=
  ∃ container ∈ pod.containers, container.RanBuild

theorem PodObservation.finishedBuild_iff (container : ContainerObservation) :
    finishedBuild container = true ↔ container.RanBuild := by
  rw [finishedBuild, Bool.and_eq_true, buildContainerName, beq_iff_eq,
    ContainerObservation.RanBuild]
  refine and_congr_right fun _ => ?_
  cases container.terminated with
  | none => simp
  | some termination => cases hid : termination.containerId <;> simp [hid]

theorem PodObservation.buildFinished_iff (pod : PodObservation) :
    pod.buildFinished = true ↔ pod.RanBuild := by
  rw [buildFinished, List.any_eq_true]
  simp only [finishedBuild_iff, RanBuild]

namespace Kubernetes

/-- The container status says that its container ran the build. -/
def StatusRanBuild (status : Json) : Prop :=
  status.member "name" = .str "build-server" ∧
    ∃ terminated id, (status.member "state").member "terminated" = .obj terminated ∧
      (Json.obj terminated).member "containerID" = .str id ∧ id ≠ ""

/-- The API shows a status of the pod with a container status that says so. -/
def ShowsBuildRan (pod : Json) : Prop :=
  ∃ statuses, (pod.member "status").member "containerStatuses" = .arr statuses ∧
    ∃ status ∈ statuses, StatusRanBuild status

theorem text?_eq_some_iff {json : Json} {text : String} :
    text? json = some text ↔ json = .str text := by
  cases json <;> simp [text?]

theorem mem_items {json status : Json} :
    status ∈ items json ↔ ∃ statuses, json = .arr statuses ∧ status ∈ statuses := by
  cases json <;> simp [items]

theorem ranBuild_observeContainer_iff (status : Json) :
    (observeContainer status).RanBuild ↔ StatusRanBuild status := by
  refine and_congr ?_ ?_
  · rw [← text?_eq_some_iff, observeContainer]
    cases text? (status.member "name") with
    | none => simp
    | some name => simp
  · simp only [observeContainer, termination?, ← text?_eq_some_iff]
    cases (status.member "state").member "terminated" <;> simp

theorem ranBuild_observe_iff (pod : Json) : (observe pod).RanBuild ↔ ShowsBuildRan pod := by
  constructor
  · rintro ⟨container, hm, hran⟩
    obtain ⟨status, hs, rfl⟩ := List.mem_map.1 hm
    obtain ⟨statuses, ha, hin⟩ := mem_items.1 hs
    exact ⟨statuses, ha, status, hin, (ranBuild_observeContainer_iff status).1 hran⟩
  · rintro ⟨statuses, ha, status, hin, hran⟩
    exact ⟨observeContainer status, List.mem_map_of_mem (mem_items.2 ⟨statuses, ha, hin⟩),
      (ranBuild_observeContainer_iff status).2 hran⟩

end Kubernetes

inductive PodSight where
  | observed (pod : PodObservation)
  | shown (pod : Json)

namespace PodSight

def observation : PodSight → PodObservation
  | .observed pod => pod
  | .shown pod => Kubernetes.observe pod

def Finished : PodSight → Prop
  | .observed pod => pod.RanBuild
  | .shown pod => Kubernetes.ShowsBuildRan pod

theorem buildFinished_iff (sight : PodSight) :
    sight.observation.buildFinished = true ↔ sight.Finished := by
  rw [PodObservation.buildFinished_iff]
  cases sight with
  | observed pod => exact Iff.rfl
  | shown pod => exact Kubernetes.ranBuild_observe_iff pod

end PodSight

/-! ## Sights -/

structure DeletionCall where
  name : String
  answer : Result Unit

/-- The sight of a pod, with the deletions that the reaper asked for when it dealt with it. -/
structure Sighting where
  pod : PodObservation
  calls : List DeletionCall

namespace Reaper

def noting (delete : String → σ → Result Unit × σ) (name : String)
    (state : σ × List DeletionCall) : Result Unit × σ × List DeletionCall :=
  let (answer, after) := delete name state.1
  (answer, after, state.2 ++ [⟨name, answer⟩])

def see (delete : String → σ → Result Unit × σ) (pod : PodObservation) (reaper : Reaper)
    (state : σ) : Sighting × Reaper × σ :=
  let (_, reaper, state, calls) := reaper.handle (noting delete) pod (state, [])
  (⟨pod, calls⟩, reaper, state)

def seeAll (delete : String → σ → Result Unit × σ) :
    List PodObservation → Reaper → σ → List Sighting × Reaper × σ
  | [], reaper, state => ([], reaper, state)
  | pod :: rest, reaper, state =>
      let (sighting, reaper, state) := reaper.see delete pod state
      let (more, reaper, state) := seeAll delete rest reaper state
      (sighting :: more, reaper, state)

section Sights

variable {delete : String → σ → Result Unit × σ} {pod : PodObservation} {reaper : Reaper}
  {state : σ}

/-- A sight that is wanted asks for one deletion, and goes by the answer. -/
theorem handle_of_wants (h : reaper.wants pod = true) :
    reaper.handle delete pod state =
      match delete pod.name state with
      | (.ok _, after) => (true, ⟨pod.name :: reaper.reaped⟩, after)
      | (.error _, after) => (false, reaper, after) :=
  if_pos h

theorem handle_of_not_wants (h : reaper.wants pod = false) :
    reaper.handle delete pod state = (false, reaper, state) := by
  rw [handle, if_neg (by simp [h])]

/-- What is seen is not changed by keeping the calls. -/
theorem see_eq_handle (delete : String → σ → Result Unit × σ) (pod : PodObservation)
    (reaper : Reaper) (state : σ) :
    (reaper.see delete pod state).2 = (reaper.handle delete pod state).2 := by
  cases hw : reaper.wants pod with
  | false => rw [see, handle_of_not_wants hw, handle_of_not_wants hw]
  | true =>
      rw [see, handle_of_wants hw, handle_of_wants hw, noting]
      rcases delete pod.name state with ⟨answer, after⟩
      cases answer with
      | ok value => rfl
      | error error => rfl

/-- A sight asks for nothing, or for one deletion of its pod whose success makes the name known. -/
theorem see_cases (delete : String → σ → Result Unit × σ) (pod : PodObservation)
    (reaper : Reaper) (state : σ) :
    (reaper.wants pod = false ∧ (reaper.handle delete pod state).1 = false ∧
      (reaper.see delete pod state).1 = ⟨pod, []⟩ ∧
      (reaper.see delete pod state).2.1 = reaper) ∨
    (reaper.wants pod = true ∧ (reaper.handle delete pod state).1 = true ∧
      (reaper.see delete pod state).1 = ⟨pod, [⟨pod.name, .ok ()⟩]⟩ ∧
      (reaper.see delete pod state).2.1 = ⟨pod.name :: reaper.reaped⟩) ∨
    ∃ error, reaper.wants pod = true ∧ (reaper.handle delete pod state).1 = false ∧
      (reaper.see delete pod state).1 = ⟨pod, [⟨pod.name, .error error⟩]⟩ ∧
      (reaper.see delete pod state).2.1 = reaper := by
  cases hw : reaper.wants pod with
  | false =>
      refine .inl ⟨rfl, ?_⟩
      rw [see, handle_of_not_wants hw, handle_of_not_wants hw]
      exact ⟨rfl, rfl, rfl⟩
  | true =>
      refine .inr ?_
      rw [see, handle_of_wants hw, handle_of_wants hw, noting]
      rcases delete pod.name state with ⟨answer, after⟩
      cases answer with
      | ok value => exact .inl ⟨rfl, rfl, rfl, rfl⟩
      | error error => exact .inr ⟨error, rfl, rfl, rfl, rfl⟩

/-- A sight asks for nothing but one deletion of its pod. -/
theorem calls_see_cases (delete : String → σ → Result Unit × σ) (pod : PodObservation)
    (reaper : Reaper) (state : σ) :
    (reaper.see delete pod state).1.calls = [] ∨
      ∃ answer, (reaper.see delete pod state).1.calls = [⟨pod.name, answer⟩] := by
  obtain ⟨-, -, hs, -⟩ | ⟨-, -, hs, -⟩ | ⟨error, -, -, hs, -⟩ := see_cases delete pod reaper state
  · exact .inl (congrArg Sighting.calls hs)
  · exact .inr ⟨_, congrArg Sighting.calls hs⟩
  · exact .inr ⟨_, congrArg Sighting.calls hs⟩

theorem wants_eq_true_iff :
    reaper.wants pod = true ↔ pod.buildFinished = true ∧ reaper.hasReaped pod.name = false := by
  rw [wants, Bool.and_eq_true, Bool.not_eq_true']

theorem hasReaped_cons (name other : String) (reaped : List String) :
    (Reaper.mk (other :: reaped)).hasReaped name = true ↔
      name = other ∨ (Reaper.mk reaped).hasReaped name = true := by
  simp [hasReaped]

end Sights

end Reaper

namespace Sighting

def Deleted (name : String) (sighting : Sighting) : Prop := ⟨name, .ok ()⟩ ∈ sighting.calls

end Sighting

namespace Reaper

section Histories

variable {delete : String → σ → Result Unit × σ} {pods rest : List PodObservation}
  {pod : PodObservation} {reaper : Reaper} {state : σ} {name : String}

theorem seeAll_cons (delete : String → σ → Result Unit × σ) (pod : PodObservation)
    (rest : List PodObservation) (reaper : Reaper) (state : σ) :
    reaper.seeAll delete (pod :: rest) state =
      ((reaper.see delete pod state).1 :: ((reaper.see delete pod state).2.1.seeAll delete rest
          (reaper.see delete pod state).2.2).1,
        ((reaper.see delete pod state).2.1.seeAll delete rest
          (reaper.see delete pod state).2.2).2) := rfl

theorem map_pod_seeAll (pods : List PodObservation) :
    (reaper.seeAll delete pods state).1.map (·.pod) = pods := by
  induction pods generalizing reaper state with
  | nil => rfl
  | cons pod rest ih =>
      rw [seeAll_cons, List.map_cons, ih]
      rfl

/-- What a sight does to the known names. -/
theorem hasReaped_see :
    (reaper.see delete pod state).2.1.hasReaped name = true ↔
      reaper.hasReaped name = true ∨ (reaper.see delete pod state).1.Deleted name := by
  obtain ⟨-, -, hs, hr⟩ | ⟨-, -, hs, hr⟩ | ⟨error, -, -, hs, hr⟩ :=
    see_cases delete pod reaper state
  · rw [hs, hr]
    simp [Sighting.Deleted]
  · rw [hs, hr, hasReaped_cons]
    simp [Sighting.Deleted, or_comm]
  · rw [hs, hr]
    simp [Sighting.Deleted]

/-- A name is known when it was known before, or when a deletion of it succeeded. -/
theorem hasReaped_seeAll (reaper : Reaper) (pods : List PodObservation) (state : σ) :
    (reaper.seeAll delete pods state).2.1.hasReaped name = true ↔
      reaper.hasReaped name = true ∨
        ∃ sighting ∈ (reaper.seeAll delete pods state).1, sighting.Deleted name := by
  induction pods generalizing reaper state with
  | nil => simp [seeAll]
  | cons pod rest ih =>
      simp only [seeAll_cons, ih, hasReaped_see, List.mem_cons, or_and_right, exists_or,
        exists_eq_left, or_assoc]

theorem calls_see_of_hasReaped (h : reaper.hasReaped name = true) :
    ∀ call ∈ (reaper.see delete pod state).1.calls, call.name ≠ name := by
  rintro call hc rfl
  have hw : ∀ name, pod.name = name → reaper.wants pod = true → reaper.hasReaped name = false := by
    rintro name rfl hw
    exact (wants_eq_true_iff.1 hw).2
  obtain ⟨-, -, hs, -⟩ | ⟨hwants, -, hs, -⟩ | ⟨error, hwants, -, hs, -⟩ :=
    see_cases delete pod reaper state
  · rw [hs] at hc
    cases hc
  · rw [hs, List.mem_singleton] at hc
    exact absurd (hw _ (congrArg DeletionCall.name hc.symm) hwants) (by simp [h])
  · rw [hs, List.mem_singleton] at hc
    exact absurd (hw _ (congrArg DeletionCall.name hc.symm) hwants) (by simp [h])

/-- No sight asks for the deletion of a known name. -/
theorem calls_of_hasReaped (h : reaper.hasReaped name = true) :
    ∀ call ∈ (reaper.seeAll delete pods state).1.flatMap (·.calls), call.name ≠ name := by
  induction pods generalizing reaper state with
  | nil => exact List.forall_mem_nil _
  | cons pod rest ih =>
      rw [seeAll_cons, List.flatMap_cons]
      intro call hm
      obtain hm | hm := List.mem_append.1 hm
      · exact calls_see_of_hasReaped h call hm
      · exact ih (hasReaped_see.2 (.inl h)) call hm

/-- No deletion of a name comes after one that succeeded. -/
theorem pairwise_calls (pods : List PodObservation) :
    ((reaper.seeAll delete pods state).1.flatMap (·.calls)).Pairwise fun earlier later =>
      earlier.answer = .ok () → later.name ≠ earlier.name := by
  induction pods generalizing reaper state with
  | nil => exact List.Pairwise.nil
  | cons pod rest ih =>
      rw [seeAll_cons, List.flatMap_cons, List.pairwise_append]
      refine ⟨?_, ih, ?_⟩
      · obtain ⟨-, -, hs, -⟩ | ⟨-, -, hs, -⟩ | ⟨error, -, -, hs, -⟩ :=
          see_cases delete pod reaper state
        · rw [hs]
          exact List.Pairwise.nil
        · rw [hs]
          exact List.pairwise_singleton _ _
        · rw [hs]
          exact List.pairwise_singleton _ _
      · rintro ⟨name, answer⟩ he later hl rfl
        exact calls_of_hasReaped (hasReaped_see.2 (.inr he)) later hl

/-- A place in a history is a sight after some sights. -/
theorem seeAll_eq_append {before after : List Sighting} {sighting : Sighting}
    (h : (reaper.seeAll delete pods state).1 = before ++ sighting :: after) :
    ∃ past, (reaper.seeAll delete past state).1 = before ∧
      ((reaper.seeAll delete past state).2.1.see delete sighting.pod
        (reaper.seeAll delete past state).2.2).1 = sighting := by
  induction pods generalizing reaper state before with
  | nil => cases before <;> cases h
  | cons pod rest ih =>
      rw [seeAll_cons] at h
      cases before with
      | nil =>
          have hs := (List.cons.inj h).1
          have hp : pod = sighting.pod := congrArg Sighting.pod hs
          exact ⟨[], rfl, hp ▸ hs⟩
      | cons first before =>
          rw [List.cons_append, List.cons.injEq] at h
          obtain ⟨past, hp, hs⟩ := ih h.2
          refine ⟨pod :: past, ?_, hs⟩
          rw [seeAll_cons, hp, h.1]

/-- What is asked for at a sight is one deletion of its pod, whose build has finished and whose
name is not known. -/
theorem calls_see {call : DeletionCall} (h : call ∈ (reaper.see delete pod state).1.calls) :
    (reaper.see delete pod state).1.calls = [call] ∧ call.name = pod.name ∧
      pod.buildFinished = true ∧ reaper.hasReaped pod.name = false := by
  obtain ⟨-, -, hs, -⟩ | ⟨hw, -, hs, -⟩ | ⟨error, hw, -, hs, -⟩ := see_cases delete pod reaper state
  · rw [hs] at h
    cases h
  · rw [hs, List.mem_singleton] at h
    rw [hs, h]
    exact ⟨rfl, rfl, wants_eq_true_iff.1 hw⟩
  · rw [hs, List.mem_singleton] at h
    rw [hs, h]
    exact ⟨rfl, rfl, wants_eq_true_iff.1 hw⟩

/-- After a failed deletion, and no sight of its pod as finished since, none has succeeded. -/
theorem not_deleted_of_failed {before between : List Sighting} {failed : Sighting} {error : Error}
    (h : (reaper.seeAll delete pods state).1 = before ++ failed :: between)
    (hf : ⟨name, .error error⟩ ∈ failed.calls)
    (hb : ∀ sighting ∈ between, sighting.pod.name = name → ¬ sighting.pod.RanBuild) :
    ∀ sighting ∈ (reaper.seeAll delete pods state).1, ¬ sighting.Deleted name := by
  obtain ⟨past, rfl, hs⟩ := seeAll_eq_append h
  rw [← hs] at hf
  obtain ⟨hone, hname, -, hnew⟩ := calls_see hf
  intro sighting hm hd
  rw [h, List.mem_append, List.mem_cons] at hm
  obtain hm | rfl | hm := hm
  · have hr := (hasReaped_seeAll reaper past state).2 (.inr ⟨sighting, hm, hd⟩)
    rw [← hname, hr] at hnew
    cases hnew
  · rw [Sighting.Deleted, ← hs, hone, List.mem_singleton] at hd
    cases hd
  · obtain ⟨front, rest, rfl⟩ := List.append_of_mem hm
    rw [← List.cons_append, ← List.append_assoc] at h
    obtain ⟨earlier, -, hlater⟩ := seeAll_eq_append h
    rw [Sighting.Deleted, ← hlater] at hd
    obtain ⟨-, hn, hran, -⟩ := calls_see hd
    exact hb sighting hm hn.symm ((PodObservation.buildFinished_iff _).1 hran)

end Histories

/-- After any sights of pods, whatever the answers to deletions were: the next sight asks for a
deletion if and only if the build of its pod has finished and no deletion of the name has succeeded,
and then for one deletion of that name; it says that the pod was deleted if and only if this
deletion succeeds. The names known as reaped are those of which a deletion has succeeded. So no
deletion of a name comes after one that succeeded, and one that failed is made again at the next
sight of the pod as finished. -/
theorem deletes_until_done (delete : String → σ → Result Unit × σ) (state : σ)
    (past : List PodSight) (next : PodSight) :
    let run := ({} : Reaper).seeAll delete (past.map PodSight.observation) state
    let history := run.1
    let reaper := run.2.1
    let name := next.observation.name
    let calls := (reaper.see delete next.observation run.2.2).1.calls
    history.map (·.pod) = past.map PodSight.observation ∧
    (reaper.see delete next.observation run.2.2).2 =
      (reaper.handle delete next.observation run.2.2).2 ∧
    (calls = [] ∨ ∃ answer, calls = [⟨name, answer⟩]) ∧
    (calls ≠ [] ↔ next.Finished ∧ ¬ ∃ earlier ∈ history, earlier.Deleted name) ∧
    ((reaper.handle delete next.observation run.2.2).1 = true ↔ ⟨name, .ok ()⟩ ∈ calls) ∧
    (∀ other, reaper.hasReaped other = true ↔ ∃ earlier ∈ history, earlier.Deleted other) ∧
    ((history.flatMap (·.calls)).Pairwise fun earlier later =>
      earlier.answer = .ok () → later.name ≠ earlier.name) ∧
    ∀ before failed between error, history = before ++ failed :: between →
      ⟨name, .error error⟩ ∈ failed.calls →
      (∀ sighting ∈ between, sighting.pod.name = name → ¬ sighting.pod.RanBuild) →
      next.Finished → calls ≠ [] := by
  intro run history reaper name calls
  have hreaped : ∀ other, reaper.hasReaped other = true ↔
      ∃ earlier ∈ history, earlier.Deleted other := by
    intro other
    exact (hasReaped_seeAll {} _ state).trans (or_iff_right Bool.false_ne_true)
  have hwants : reaper.wants next.observation = true ↔
      next.Finished ∧ ¬ ∃ earlier ∈ history, earlier.Deleted name := by
    rw [wants_eq_true_iff, PodSight.buildFinished_iff, ← hreaped, Bool.not_eq_true]
  have hcalls : calls ≠ [] ↔ reaper.wants next.observation = true := by
    obtain ⟨hw, -, hs, -⟩ | ⟨hw, -, hs, -⟩ | ⟨error, hw, -, hs, -⟩ :=
      see_cases delete next.observation reaper run.2.2
    · simp only [calls, hs, hw]
      simp
    · simp only [calls, hs, hw]
      simp
    · simp only [calls, hs, hw]
      simp
  refine ⟨map_pod_seeAll _, see_eq_handle _ _ _ _, calls_see_cases _ _ _ _, hcalls.trans hwants, ?_,
    hreaped, pairwise_calls _, ?_⟩
  · obtain ⟨-, hd, hs, -⟩ | ⟨-, hd, hs, -⟩ | ⟨error, -, hd, hs, -⟩ :=
      see_cases delete next.observation reaper run.2.2
    · simp [calls, hd, hs]
    · simp [calls, hd, hs, name]
    · simp [calls, hd, hs]
  · intro before failed between error hh hf hb hfinished
    have hnone := not_deleted_of_failed hh hf hb
    exact hcalls.2 (hwants.2 ⟨hfinished, fun ⟨earlier, hm, hd⟩ => hnone earlier hm hd⟩)

end Reaper

end BuildScheduler
