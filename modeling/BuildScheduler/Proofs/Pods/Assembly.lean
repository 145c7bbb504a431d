import BuildScheduler.Proofs.Kubernetes.Admission

/-!
# What a build pod is put together from

A build pod is its build container followed by the containers that the fragments of its project
describe. A fragment that cannot be read, or that takes the name of the build container, is left out
and changes nothing else; so the build container is the only one of its name, whatever the fragments
are. `buildPod_assembled` says this of every project, and that a configuration is accepted only with
fragments that can be read.
-/

namespace BuildScheduler

namespace PodTemplate

/-- The fragment reads as a container that does not take the name of the build container. -/
def Joins (fragment : String) : Prop :=
  ∃ container, Container.ofText fragment = .ok container ∧ container.name ≠ buildContainerName

theorem joins_iff (fragment : String) : Joins fragment ↔ (sidecar? fragment).isSome = true := by
  simp only [Joins, Option.isSome_iff_exists, sidecar?_eq_some_iff]

instance : DecidablePred Joins := fun fragment => decidable_of_iff _ (joins_iff fragment).symm

theorem sidecar?_eq_none {fragment : String} (h : ¬ Joins fragment) : sidecar? fragment = none := by
  rwa [joins_iff, Option.not_isSome_iff_eq_none] at h

structure Assembled (event : BuildEvent) (id : BuildId) (project : Project) (pod : PodSpec) :
    Prop where
  /-- The build container is first; after it every fragment that joins has its container, in the
  order of the fragments. -/
  containers : ∃ sidecars, pod.containers = buildContainer event id project :: sidecars ∧
    List.Forall₂ (fun fragment container => Container.ofText fragment = .ok container)
      (project.sidecars.filter Joins) sidecars
  alone : pod.containers.countP (·.name = buildContainerName) = 1
  found : pod.container? buildContainerName = some (buildContainer event id project)
  image : (buildContainer event id project).image = some project.descriptor.image
  mounted : ∀ mount ∈ (buildContainer event id project).mounts,
    mount.name ∈ pod.volumes.map (·.name)

/-- The sidecars are what the joining fragments describe. -/
theorem forall₂_sidecars (fragments : List String) :
    List.Forall₂ (fun fragment container => Container.ofText fragment = .ok container)
      (fragments.filter Joins) (fragments.filterMap sidecar?) := by
  induction fragments with
  | nil => exact .nil
  | cons fragment rest ih =>
      by_cases h : Joins fragment
      · obtain ⟨container, hr, hn⟩ := h
        have hs : sidecar? fragment = some container := sidecar?_eq_some_iff.2 ⟨hr, hn⟩
        rw [List.filter_cons_of_pos (by simpa using ⟨container, hr, hn⟩),
          List.filterMap_cons_some hs]
        exact .cons hr ih
      · rw [List.filter_cons_of_neg (by simpa using h),
          List.filterMap_cons_none (sidecar?_eq_none h)]
        exact ih

theorem assembled_buildPod (template : PodTemplate) (event : BuildEvent) (id : BuildId)
    (project : Project) : Assembled event id project (template.buildPod event id project) where
  containers := ⟨sidecars project, rfl, forall₂_sidecars project.sidecars⟩
  alone := by
    have hnone : (sidecars project).countP (·.name = buildContainerName) = 0 :=
      List.countP_eq_zero.2 fun container hm => by simpa using name_ne_of_mem_sidecars hm
    rw [buildPod, List.countP_cons_of_pos (by simp [buildContainer]), hnone]
  found := List.find?_cons_of_pos (by simp [buildContainer])
  image := rfl
  mounted := by simp [buildPod, buildContainer]

/-- A fragment that does not join leaves no trace in the pod. -/
theorem buildPod_of_not_joins (template : PodTemplate) (event : BuildEvent) (id : BuildId)
    (project : Project) (before after : List String) {fragment : String} (h : ¬ Joins fragment) :
    template.buildPod event id { project with sidecars := before ++ fragment :: after } =
      template.buildPod event id { project with sidecars := before ++ after } := by
  have hs : sidecars { project with sidecars := before ++ fragment :: after } =
      sidecars { project with sidecars := before ++ after } := by
    simp only [sidecars, List.filterMap_append, List.filterMap_cons_none (sidecar?_eq_none h)]
  rw [buildPod, buildPod, hs]
  rfl

end PodTemplate

namespace Config

open PodTemplate (Joins Assembled)

/-- Every pod is put together from the build container and the joining fragments of its project, and
a fragment that does not join might as well not be there. In an accepted configuration the only
fragments that do not join are containers with the name of the build container. -/
theorem buildPod_assembled (template : PodTemplate) (event : BuildEvent) (id : BuildId) :
    (∀ project, Assembled event id project (template.buildPod event id project)) ∧
    (∀ (project : Project) (before : List String) (fragment : String) (after : List String),
      ¬ Joins fragment →
        template.buildPod event id { project with sidecars := before ++ fragment :: after } =
          template.buildPod event id { project with sidecars := before ++ after }) ∧
    ∀ text config, ofText text = .ok config → ∀ project ∈ config.projects,
      ∀ fragment ∈ project.sidecars, ¬ Joins fragment →
        ∃ container, Container.ofText fragment = .ok container ∧
          container.name = buildContainerName := by
  refine ⟨template.assembled_buildPod event id, ?_, ?_⟩
  · intro project before fragment after h
    exact template.buildPod_of_not_joins event id project before after h
  · intro text config h project hp fragment hf hj
    obtain ⟨document, -, hd⟩ := ofText_ok_iff.1 h
    obtain ⟨container, hr⟩ :=
      (sound_of_ofDocument hd (keyed_of_ofText h)).sidecars project hp fragment hf
    refine ⟨container, hr, ?_⟩
    by_contra hn
    exact hj ⟨container, hr, hn⟩

/-- A fragment with the name of the build container, between two that are the same. -/
theorem buildPod_assembled_around_namesake :
    let sidecar := "\x7b\"name\":\"d\"\x7d"
    let namesake := "\x7b\"name\":\"build-server\"\x7d"
    ∃ config, ofText (textOfSidecars [sidecar, namesake, sidecar]) = .ok config ∧
      ∃ project ∈ config.projects, project.sidecars = [sidecar, namesake, sidecar] ∧
        ∀ (template : PodTemplate) (event : BuildEvent) (id : BuildId),
          let pod := template.buildPod event id project
          pod = template.buildPod event id { project with sidecars := [sidecar, sidecar] } ∧
          pod.containers.length = 3 ∧
          pod.container? buildContainerName =
            some (PodTemplate.buildContainer event id project) ∧
          ∃ container, Container.ofText namesake = .ok container ∧
            container.name = buildContainerName := by
  intro sidecar namesake
  obtain ⟨config, hc, project, hp, hs⟩ := exists_project_of_ofText
    (textOfSidecars [sidecar, namesake, sidecar])
    (fun project => project.sidecars == [sidecar, namesake, sidecar]) (by decide +kernel)
  have hs := eq_of_beq hs
  have hleft : ¬ Joins namesake := by decide +kernel
  have hkept : [sidecar, namesake, sidecar].filter Joins = [sidecar, sidecar] := by decide +kernel
  refine ⟨config, hc, project, hp, hs, fun template event id => ?_⟩
  obtain ⟨hall, hsame, hread⟩ := buildPod_assembled template event id
  obtain ⟨sidecars, hcontainers, hjoined⟩ := (hall project).containers
  rw [hs, hkept] at hjoined
  have hlength := congrArg List.length hcontainers
  rw [List.length_cons, ← hjoined.length_eq] at hlength
  have hpod := hsame project [sidecar] namesake [sidecar] hleft
  rw [List.cons_append, List.nil_append, ← hs] at hpod
  exact ⟨hpod, hlength, (hall project).found,
    hread _ config hc project hp namesake (by simp [hs]) hleft⟩

end Config

end BuildScheduler
