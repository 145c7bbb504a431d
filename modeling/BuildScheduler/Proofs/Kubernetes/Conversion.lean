import BuildScheduler.Kubernetes.Pod
import BuildScheduler.Proofs.Container.PassThrough
import BuildScheduler.Proofs.Kubernetes.Fields

/-!
# Containers in the schema of the API

A container reaches the API through its own JSON form. Nothing that the API understands is lost on
the way: the API container is the one that the schema reads from the value the container came
from, but for empty lists and a `readOnly` that is false, which count as absent.
-/

namespace BuildScheduler.Kubernetes

open Schema (Commutes readValue valueAt)
open Json.Members (tidied)

/-! ## Empty parts -/

def isEmptyPart (name : String) (value : Json) : Bool :=
  (name = "env" ∨ name = "volumeMounts") ∧ value = .arr []

/-- The member of an API container; a `readOnly` that is false counts as absent in its mounts. -/
def memberWithoutEmpty (name : String) (value : Json) : Json :=
  if name = "volumeMounts" then Json.mapItems VolumeMount.withoutDefaults value else value

/-- An API container in which empty lists of variables and of mounts, and a `readOnly` that is
false, count as absent. -/
def withoutEmpty : Json → Json := Json.tidy isEmptyPart memberWithoutEmpty

/-! ## Reading without defaults -/

theorem commutes_envVar {value : Json} (hv : value.Canonical) :
    Commutes (readValue Schema.envVar) EnvVar.withoutDefaults
      (Json.tidy (fun _ _ => false) fun _ value => value) value := by
  refine Schema.commutes_object (by decide) hv fun name held _ => ?_
  by_cases hn : name = "value"
  · subst hn
    rw [Schema.valueAt_eq rfl]
    exact Schema.commutes_null rfl (by simp [EnvVar.isDefault]) (fun _ => rfl)
      (fun _ => ⟨rfl, rfl⟩) held
  · exact Schema.commutes_other (by simp [EnvVar.isDefault, hn]) (fun _ => ⟨rfl, rfl⟩) held

theorem commutes_volumeMount {value : Json} (hv : value.Canonical) :
    Commutes (readValue Schema.volumeMount) VolumeMount.withoutDefaults VolumeMount.withoutDefaults
      value := by
  refine Schema.commutes_object (by decide) hv fun name held _ => ?_
  by_cases hn : name = "readOnly"
  · subst hn
    rw [Schema.valueAt_eq rfl]
    exact Schema.commutes_flag (by simp [VolumeMount.isDefault]) (fun _ => rfl) held
  · have hkept : ∀ value, VolumeMount.isDefault name value = false ∧ value = value := by
      simp [VolumeMount.isDefault, hn]
    exact Schema.commutes_other hkept hkept held

theorem commutes_container {value : Json} (hv : value.Canonical) :
    Commutes (readValue Schema.container) Container.withoutDefaults withoutEmpty value := by
  refine Schema.commutes_object (by decide) hv fun name held hc => ?_
  have hitems : ∀ items, held = some (.arr items) → ∀ item ∈ items, item.Canonical :=
    fun items he => Json.canonical_arr.1 (hc _ he)
  by_cases himage : name = "image"
  · subst himage
    rw [Schema.valueAt_eq rfl]
    exact Schema.commutes_null rfl (by simp [Container.isDefault])
      (by simp [Container.memberWithoutDefaults]) (by simp [isEmptyPart, memberWithoutEmpty]) held
  by_cases henv : name = "env"
  · subst henv
    rw [Schema.valueAt_eq rfl]
    refine Schema.commutes_list (by simp [Container.isDefault]) (by simp [isEmptyPart])
      (fun _ => rfl) (fun value => ?_) fun items he item hm =>
        commutes_envVar (hitems items he item hm)
    exact (Json.mapItems_unchanged Json.tidy_nothing value).symm
  by_cases hmounts : name = "volumeMounts"
  · subst hmounts
    rw [Schema.valueAt_eq rfl]
    exact Schema.commutes_list (by simp [Container.isDefault]) (by simp [isEmptyPart])
      (fun _ => rfl) (fun _ => rfl) fun items he item hm =>
        commutes_volumeMount (hitems items he item hm)
  · exact Schema.commutes_other
      (by simp [Container.isDefault, Container.memberWithoutDefaults, himage, henv, hmounts])
      (by simp [isEmptyPart, memberWithoutEmpty, henv, hmounts]) held

/-! ## Conversion -/

theorem apiContainer_ok_iff {container : Container} {converted : Json} :
    apiContainer container = .ok converted ↔
      readValue Schema.container container.toJson = .ok converted := by
  rw [apiContainer, readValue]
  cases Schema.read container.toJson.toNode Schema.container with
  | ok json => simp
  | error error => simp

/-- A container that does not convert is named in the error. -/
theorem apiContainer_error_iff {container : Container} {error : Error} :
    apiContainer container = .error error ↔ ∃ cause,
      readValue Schema.container container.toJson = .error cause ∧
        error = .invalidInput ("container " ++ container.name ++ ": " ++ cause.message) := by
  rw [apiContainer, readValue]
  cases Schema.read container.toJson.toNode Schema.container with
  | ok json => simp
  | error cause => simp [eq_comm]

/-- A container converts to what the API reads of the value it came from. -/
theorem apiContainer_of_decode {value : Json} (hv : value.Canonical) {container : Container}
    (h : Container.decode value.toNode = .ok container) (converted : Json) :
    apiContainer container = .ok converted ↔ ∃ direct,
      Schema.read value.toNode Schema.container = .ok direct ∧ converted = withoutEmpty direct := by
  rw [apiContainer_ok_iff, (Container.passes_through hv h).1]
  exact commutes_container hv converted

/-! ## Pods -/

def IsVolumeOf (volume : Volume) (json : Json) : Prop :=
  json.member "name" = .str volume.name ∧
    match volume.source with
    | .gitRepo repository revision =>
        json.member "gitRepo" = .obj [("repository", .str repository), ("revision", .str revision)]
    | .secret secretName => json.member "secret" = .obj [("secretName", .str secretName)]

/-- An API pod has the name and the labels of a build pod, its volumes in their order, and these
containers. Labels stand in the order of their names, as in every map. -/
structure IsPodOf (spec : PodSpec) (nameSpace : String) (containers : List Json) (pod : Json) :
    Prop where
  name : (pod.member "metadata").member "name" = .str spec.name
  nameSpace : (pod.member "metadata").member "namespace" = .str nameSpace
  labels : (spec.labels.map (·.1)).Pairwise (· < ·) → (pod.member "metadata").member "labels" =
    .obj (spec.labels.map fun label => (label.1, .str label.2))
  containers : (pod.member "spec").member "containers" = .arr containers
  volumes : ∃ volumes, List.Forall₂ IsVolumeOf spec.volumes volumes ∧
    (pod.member "spec").member "volumes" = .arr volumes
  restarts : (pod.member "spec").member "restartPolicy" = .str "Never"

theorem isVolumeOf_apiVolume (volume : Volume) : IsVolumeOf volume (apiVolume volume) := by
  obtain ⟨name, source⟩ := volume
  cases source with
  | gitRepo repository revision =>
      have hsorted : Json.Members.Sorted
          [("repository", .str repository), ("revision", .str revision)] := by
        simp only [Json.Members.Sorted, List.map]
        decide
      simp only [IsVolumeOf, apiVolume]
      rw [Json.member_object (by simp), Json.member_object (by simp), Json.object_of_sorted hsorted]
      exact ⟨rfl, rfl⟩
  | secret secretName =>
      simp only [IsVolumeOf, apiVolume]
      rw [Json.member_object (by simp), Json.member_object (by simp)]
      exact ⟨rfl, rfl⟩

def podOf (spec : PodSpec) (nameSpace : String) (containers : List Json) : Json :=
  Json.object [
    ("apiVersion", .str "v1"),
    ("kind", .str "Pod"),
    ("metadata", Json.object [
      ("labels", spec.labels.toJson),
      ("name", .str spec.name),
      ("namespace", .str nameSpace)]),
    ("spec", Json.object [
      ("containers", .arr containers),
      ("restartPolicy", .str "Never"),
      ("volumes", .arr (spec.volumes.map apiVolume))])]

theorem toPod_eq (spec : PodSpec) (nameSpace : String) :
    toPod spec nameSpace = (spec.containers.mapM apiContainer).map (podOf spec nameSpace) := by
  rw [toPod]
  cases spec.containers.mapM apiContainer <;> rfl

theorem isPodOf_podOf (spec : PodSpec) (nameSpace : String) (containers : List Json) :
    IsPodOf spec nameSpace containers (podOf spec nameSpace containers) := by
  have hmetadata : (podOf spec nameSpace containers).member "metadata" = Json.object [
      ("labels", spec.labels.toJson), ("name", .str spec.name), ("namespace", .str nameSpace)] := by
    rw [podOf, Json.member_object (by simp)]
    rfl
  have hspec : (podOf spec nameSpace containers).member "spec" = Json.object [
      ("containers", .arr containers), ("restartPolicy", .str "Never"),
      ("volumes", .arr (spec.volumes.map apiVolume))] := by
    rw [podOf, Json.member_object (by simp)]
    rfl
  have hvolumes : List.Forall₂ IsVolumeOf spec.volumes (spec.volumes.map apiVolume) :=
    List.forall₂_map_right_iff.2 (List.forall₂_same.2 fun volume _ => isVolumeOf_apiVolume volume)
  constructor
  case volumes =>
    refine ⟨_, hvolumes, ?_⟩
    rw [hspec, Json.member_object (by simp)]
    rfl
  case labels =>
    intro hl
    have hsorted : Json.Members.Sorted (spec.labels.map fun label => (label.1, .str label.2)) := by
      rw [Json.Members.Sorted, List.map_map]
      exact hl
    rw [hmetadata, Json.member_object (by simp), ← Json.object_of_sorted hsorted]
    rfl
  all_goals
    simp only [hmetadata, hspec]
    rw [Json.member_object (by simp)]
    rfl

theorem exists_toPod_iff (spec : PodSpec) (nameSpace : String) :
    (∃ pod, toPod spec nameSpace = .ok pod) ↔
      ∀ container ∈ spec.containers, ∃ converted, apiContainer container = .ok converted := by
  rw [← exists_mapM_ok_iff, toPod_eq]
  constructor
  · rintro ⟨pod, h⟩
    obtain ⟨containers, hc, -⟩ := map_ok_iff.1 h
    exact ⟨containers, hc⟩
  · rintro ⟨containers, hc⟩
    exact ⟨_, map_ok_iff.2 ⟨containers, hc, rfl⟩⟩

/-- Through the type of containers nothing is lost that the API reads, and a pod is made of its
containers in their order, or else of none of them. -/
theorem conversion_keeps_what_is_read :
    (∀ (value : Json) (container : Container), value.Canonical →
      Container.decode value.toNode = .ok container → ∀ converted,
        (apiContainer container = .ok converted ↔ ∃ direct,
          Schema.read value.toNode Schema.container = .ok direct ∧
            converted = withoutEmpty direct)) ∧
    ∀ (spec : PodSpec) (nameSpace : String),
      ((∃ pod, toPod spec nameSpace = .ok pod) ↔
        ∀ container ∈ spec.containers, ∃ converted, apiContainer container = .ok converted) ∧
      (∀ pod, toPod spec nameSpace = .ok pod → ∃ containers,
        List.Forall₂ (fun container converted => apiContainer container = .ok converted)
          spec.containers containers ∧ IsPodOf spec nameSpace containers pod) ∧
      ∀ error, toPod spec nameSpace = .error error ↔ ∃ before container after,
        spec.containers = before ++ container :: after ∧
          (∀ other ∈ before, ∃ converted, apiContainer other = .ok converted) ∧
          ∃ cause, Schema.read container.toJson.toNode Schema.container = .error cause ∧
            error = .invalidInput ("container " ++ container.name ++ ": " ++ cause.message) := by
  refine ⟨fun value container hv h => apiContainer_of_decode hv h, fun spec nameSpace =>
    ⟨exists_toPod_iff spec nameSpace, fun pod h => ?_, fun error => ?_⟩⟩
  · rw [toPod_eq] at h
    obtain ⟨containers, hc, rfl⟩ := map_ok_iff.1 h
    exact ⟨containers, mapM_ok_iff.1 hc, isPodOf_podOf spec nameSpace containers⟩
  · have herror : toPod spec nameSpace = .error error ↔
        spec.containers.mapM apiContainer = .error error := by
      rw [toPod_eq]
      cases spec.containers.mapM apiContainer <;> simp [Except.map]
    rw [herror, mapM_error_iff]
    simp only [apiContainer_error_iff, readValue]

theorem agentSidecar_converts :
    Container.agentSidecar.Canonical ∧ ∃ container converted direct,
      Container.decode Container.agentSidecar.toNode = .ok container ∧
      apiContainer container = .ok converted ∧
      Schema.read Container.agentSidecar.toNode Schema.container = .ok direct ∧
      converted = withoutEmpty direct := by
  have hd : ∃ container, Container.decode Container.agentSidecar.toNode = .ok container := ⟨_, rfl⟩
  have hr : ∃ direct, Schema.read Container.agentSidecar.toNode Schema.container = .ok direct :=
    ⟨_, rfl⟩
  obtain ⟨container, h⟩ := hd
  obtain ⟨direct, hr⟩ := hr
  have hc := (conversion_keeps_what_is_read.1 _ container Container.agentSidecar_canonical h _).2
    ⟨direct, hr, rfl⟩
  exact ⟨Container.agentSidecar_canonical, container, _, direct, h, hc, hr, rfl⟩

end BuildScheduler.Kubernetes
