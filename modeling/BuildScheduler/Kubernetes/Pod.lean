import BuildScheduler.Kubernetes.Objects
import BuildScheduler.Pod
import BuildScheduler.Error

/-!
# Pods of the API

A build pod is submitted as an API pod that never restarts; its containers are read from their
JSON form into the schema of containers. Of a pod that the API shows, its name and the states of
its containers are observed.
-/

namespace BuildScheduler.Kubernetes

/-- A container in the schema of the API. -/
def apiContainer (container : Container) : Result Json :=
  match Schema.read container.toJson.toNode Schema.container with
  | .ok json => .ok json
  | .error error => .error (.invalidInput ("container " ++ container.name ++ ": " ++ error.message))

def apiVolume (volume : Volume) : Json :=
  match volume.source with
  | .gitRepo repository revision =>
      Json.object [("name", .str volume.name),
        ("gitRepo", Json.object [("repository", .str repository), ("revision", .str revision)])]
  | .secret secretName =>
      Json.object [("name", .str volume.name), ("secret", Json.object [("secretName", .str secretName)])]

/-- The API pod of a build pod. -/
def toPod (spec : PodSpec) (nameSpace : String) : Result Json := do
  let containers ← spec.containers.mapM apiContainer
  .ok <| Json.object [
    ("apiVersion", .str "v1"),
    ("kind", .str "Pod"),
    ("metadata", Json.object [
      ("labels", spec.labels.toJson),
      ("name", .str spec.name),
      ("namespace", .str nameSpace)]),
    ("spec", Json.object [
      ("containers", .arr containers),
      ("restartPolicy", .str "Never"),
      ("volumes", .arr (spec.volumes.map apiVolume))])]

/-! Observing -/

/-- The text of a value, if it is one. -/
def text? : Json → Option String
  | .str text => some text
  | _ => none

def items : Json → List Json
  | .arr values => values
  | _ => []

def integer : Json → Int
  | .int value => value
  | _ => 0

/-- How a container terminated, if its state says so. -/
def termination? (state : Json) : Option Termination :=
  match state.member "terminated" with
  | .obj members =>
      let terminated := Json.obj members
      some ⟨text? (terminated.member "containerID"), integer (terminated.member "exitCode")⟩
  | _ => none

def observeContainer (status : Json) : ContainerObservation :=
  ⟨(text? (status.member "name")).getD "", termination? (status.member "state")⟩

/-- What is observed of a pod. -/
def observe (pod : Json) : PodObservation :=
  { name := (text? ((pod.member "metadata").member "name")).getD ""
    containers := (items ((pod.member "status").member "containerStatuses")).map observeContainer }

/-- The observation of a pod given as a node. -/
def decodePod : Json.Decoder PodObservation := fun node =>
  (Schema.read node Schema.pod).map observe

end BuildScheduler.Kubernetes
