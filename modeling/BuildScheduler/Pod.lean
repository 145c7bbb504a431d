import BuildScheduler.Container
import BuildScheduler.Labels

/-!
# Build pods

A pod spec is what the scheduler asks a cluster for, and an observation is what it learns of a
pod. A build has finished when its container has terminated with a container identifier; one
without an identifier never ran.
-/

namespace BuildScheduler

/-- The container that runs the build. -/
def buildContainerName : String := "build-server"

inductive VolumeSource where
  /-- A repository checked out at a revision. -/
  | gitRepo (repository revision : String)
  /-- A secret as files. -/
  | secret (secretName : String)
deriving DecidableEq

namespace VolumeSource

instance : Inhabited VolumeSource := ⟨.secret ""⟩

def gitRepoRecord : Json.Record (String × String) where
  title := "struct variant VolumeSource::GitRepo"
  blank := ("", "")
  fields := [
    ⟨"repository", .required, fun node parts => do pure (← Json.Decode.string node, parts.2)⟩,
    ⟨"revision", .required, fun node parts => do pure (parts.1, ← Json.Decode.string node)⟩]

def secretRecord : Json.Record String where
  title := "struct variant VolumeSource::Secret"
  blank := ""
  fields := [⟨"secret_name", .required, fun node _ => Json.Decode.string node⟩]

/-- The decoder of a variant that needs its members. -/
def withMembers (decode : Json.Decoder VolumeSource) :
    Option Json.Node → Except Json.ReadError VolumeSource
  | none => .error (.invalidType .unitVariant "struct variant")
  | some node => decode node

def decode : Json.Decoder VolumeSource :=
  Json.Decode.variant [
    ("GitRepo", withMembers fun node =>
      (gitRepoRecord.decode node).map fun parts => .gitRepo parts.1 parts.2),
    ("Secret", withMembers fun node => (secretRecord.decode node).map .secret)]

def toJson : VolumeSource → Json
  | .gitRepo repository revision =>
      Json.object [("GitRepo", Json.object [("repository", .str repository), ("revision", .str revision)])]
  | .secret secretName => Json.object [("Secret", Json.object [("secret_name", .str secretName)])]

end VolumeSource

structure Volume where
  name : String
  source : VolumeSource
deriving DecidableEq

namespace Volume

instance : Inhabited Volume := ⟨⟨"", default⟩⟩

def record : Json.Record Volume where
  title := "struct VolumeSpec"
  blank := default
  fields := [
    ⟨"name", .required, fun node volume => do pure { volume with name := ← Json.Decode.string node }⟩,
    ⟨"source", .required,
      fun node volume => do pure { volume with source := ← VolumeSource.decode node }⟩]

def decode : Json.Decoder Volume := record.decode

def toJson (volume : Volume) : Json :=
  Json.object [("name", .str volume.name), ("source", volume.source.toJson)]

end Volume

structure PodSpec where
  name : String
  labels : Labels := []
  containers : List Container := []
  volumes : List Volume := []
deriving DecidableEq

namespace PodSpec

instance : Inhabited PodSpec := ⟨{ name := "" }⟩

/-- The first container of a name. -/
def container? (spec : PodSpec) (name : String) : Option Container :=
  spec.containers.find? (·.name == name)

def record : Json.Record PodSpec where
  title := "struct BuildPodSpec"
  blank := default
  fields := [
    ⟨"name", .required, fun node spec => do pure { spec with name := ← Json.Decode.string node }⟩,
    ⟨"labels", .required, fun node spec => do pure { spec with labels := ← Labels.decode node }⟩,
    ⟨"containers", .required, fun node spec => do
      pure { spec with containers := ← Json.Decode.list Container.decode node }⟩,
    ⟨"volumes", .required, fun node spec => do
      pure { spec with volumes := ← Json.Decode.list Volume.decode node }⟩]

def decode : Json.Decoder PodSpec := record.decode

def toJson (spec : PodSpec) : Json :=
  Json.object [
    ("name", .str spec.name),
    ("labels", spec.labels.toJson),
    ("containers", .arr (spec.containers.map Container.toJson)),
    ("volumes", .arr (spec.volumes.map Volume.toJson))]

end PodSpec

/-! What is observed of a pod -/

structure Termination where
  containerId : Option String
  exitCode : Int
deriving DecidableEq, Repr

structure ContainerObservation where
  name : String
  terminated : Option Termination := none
deriving DecidableEq, Repr

structure PodObservation where
  name : String
  containers : List ContainerObservation := []
deriving DecidableEq, Repr

namespace PodObservation

/-- Whether a container ran the build to its end. -/
def finishedBuild (container : ContainerObservation) : Bool :=
  container.name == buildContainerName &&
    (container.terminated.bind (·.containerId)).any (· != "")

/-- Whether the build container has run and terminated. -/
def buildFinished (pod : PodObservation) : Bool := pod.containers.any finishedBuild

end PodObservation

end BuildScheduler
