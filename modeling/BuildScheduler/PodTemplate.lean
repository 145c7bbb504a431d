import BuildScheduler.Pod
import BuildScheduler.Project

/-!
# Assembling build pods

The build container comes first; it learns of its build by four variables and mounts the build
scripts and the credentials. The sidecars of the project follow in their order, without those
that cannot be read or that take the name of the build container.
-/

namespace BuildScheduler

def scriptsVolume : String := "build-scripts"
def scriptsMountPath : String := "/home/decap/buildscripts"
def credentialsVolume : String := "decap-credentials"
def credentialsMountPath : String := "/etc/secrets"

/-- What every build pod shares. -/
structure PodTemplate where
  repository : String
  branch : String
  credentialsSecret : String := credentialsVolume
deriving DecidableEq

namespace PodTemplate

/-- A sidecar that goes into a build pod. -/
def sidecar? (text : String) : Option Container :=
  match Container.ofText text with
  | .ok container => if container.name = buildContainerName then none else some container
  | .error _ => none

theorem sidecar?_eq_some_iff {text : String} {container : Container} :
    sidecar? text = some container ↔
      Container.ofText text = .ok container ∧ container.name ≠ buildContainerName := by
  unfold sidecar?
  cases Container.ofText text with
  | error error => simp
  | ok found =>
      simp only [Except.ok.injEq]
      split
      · rename_i hn
        exact iff_of_false nofun fun h => h.2 (h.1 ▸ hn)
      · rename_i hn
        exact ⟨fun h => ⟨Option.some.inj h, Option.some.inj h ▸ hn⟩, fun h => congrArg some h.1⟩

def sidecars (project : Project) : List Container := project.sidecars.filterMap sidecar?

def buildContainer (event : BuildEvent) (id : BuildId) (project : Project) : Container where
  name := buildContainerName
  image := some project.descriptor.image
  env := [
    .literal "BUILD_ID" id.toText,
    .literal "PROJECT_KEY" event.projectKey,
    .literal "BRANCH_TO_BUILD" event.ref,
    .literal "BUILD_LOCK_KEY" event.lockName]
  mounts := [
    { name := scriptsVolume, mountPath := scriptsMountPath },
    { name := credentialsVolume, mountPath := credentialsMountPath }]

/-- The pod of one build. -/
def buildPod (template : PodTemplate) (event : BuildEvent) (id : BuildId) (project : Project) :
    PodSpec where
  name := id.toText
  labels := event.labels
  containers := buildContainer event id project :: sidecars project
  volumes := [
    ⟨scriptsVolume, .gitRepo template.repository template.branch⟩,
    ⟨credentialsVolume, .secret template.credentialsSecret⟩]

end PodTemplate

/-- The lock name that the build container of a pod is given. -/
def PodSpec.lockName? (spec : PodSpec) : Option String :=
  (spec.container? buildContainerName).bind (·.envValue "BUILD_LOCK_KEY")

theorem PodTemplate.lockName?_buildPod (template : PodTemplate) (event : BuildEvent) (id : BuildId)
    (project : Project) : (template.buildPod event id project).lockName? = some event.lockName := by
  simp [PodSpec.lockName?, PodSpec.container?, buildPod, buildContainer, buildContainerName,
    Container.envValue, EnvVar.literal]

end BuildScheduler
