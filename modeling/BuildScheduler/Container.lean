import BuildScheduler.Json.Decode

/-!
# Containers

A container spec names what the scheduler looks at and keeps every other member as it was, and
so do its environment variables and volume mounts. What is at its default is left out when the
spec is written.
-/

namespace BuildScheduler

open Json (Field Record Decoder)

/-- The members of other names, with one more. -/
def keepMember (name : String) (value : Json) (members : Json.Members) : Json.Members :=
  Json.Members.insert name value members

structure EnvVar where
  name : String
  value : Option String := none
  extra : Json.Members := []
deriving DecidableEq

namespace EnvVar

instance : Inhabited EnvVar := ⟨{ name := "" }⟩

/-- A variable with a literal value. -/
def literal (name value : String) : EnvVar := { name, value := some value }

def record : Record EnvVar where
  title := "struct EnvVar"
  blank := default
  fields := [
    ⟨"name", .required, fun node var => do pure { var with name := ← Json.Decode.string node }⟩,
    ⟨"value", .defaulted, fun node var => do
      pure { var with value := ← Json.Decode.option Json.Decode.string node }⟩]
  unknown := .kept fun name value var => { var with extra := keepMember name value var.extra }

def decode : Decoder EnvVar := record.decode

def toJson (var : EnvVar) : Json :=
  Json.object <|
    ("name", .str var.name) :: (var.value.map fun value => ("value", Json.str value)).toList ++ var.extra

end EnvVar

structure VolumeMount where
  name : String
  mountPath : String
  readOnly : Bool := false
  extra : Json.Members := []
deriving DecidableEq

namespace VolumeMount

instance : Inhabited VolumeMount := ⟨{ name := "", mountPath := "" }⟩

def record : Record VolumeMount where
  title := "struct VolumeMount"
  blank := default
  fields := [
    ⟨"name", .required, fun node mount => do pure { mount with name := ← Json.Decode.string node }⟩,
    ⟨"mountPath", .required,
      fun node mount => do pure { mount with mountPath := ← Json.Decode.string node }⟩,
    ⟨"readOnly", .defaulted,
      fun node mount => do pure { mount with readOnly := ← Json.Decode.bool node }⟩]
  unknown := .kept fun name value mount => { mount with extra := keepMember name value mount.extra }

def decode : Decoder VolumeMount := record.decode

def toJson (mount : VolumeMount) : Json :=
  Json.object <|
    [("name", .str mount.name), ("mountPath", .str mount.mountPath)] ++
    (if mount.readOnly then [("readOnly", .bool true)] else []) ++ mount.extra

end VolumeMount

structure Container where
  name : String
  image : Option String := none
  env : List EnvVar := []
  mounts : List VolumeMount := []
  extra : Json.Members := []
deriving DecidableEq

namespace Container

instance : Inhabited Container := ⟨{ name := "" }⟩

def record : Record Container where
  title := "struct ContainerSpec"
  blank := default
  fields := [
    ⟨"name", .required,
      fun node container => do pure { container with name := ← Json.Decode.string node }⟩,
    ⟨"image", .defaulted, fun node container => do
      pure { container with image := ← Json.Decode.option Json.Decode.string node }⟩,
    ⟨"env", .defaulted, fun node container => do
      pure { container with env := ← Json.Decode.list EnvVar.decode node }⟩,
    ⟨"volumeMounts", .defaulted, fun node container => do
      pure { container with mounts := ← Json.Decode.list VolumeMount.decode node }⟩]
  unknown := .kept fun name value container =>
    { container with extra := keepMember name value container.extra }

def decode : Decoder Container := record.decode

/-- The container that a JSON text describes. -/
def ofText (text : String) : Except Json.ReadError Container := Json.readText decode text

def toJson (container : Container) : Json :=
  Json.object <|
    ("name", .str container.name) ::
    (container.image.map fun image => ("image", Json.str image)).toList ++
    (if container.env.isEmpty then [] else [("env", .arr (container.env.map EnvVar.toJson))]) ++
    (if container.mounts.isEmpty then []
      else [("volumeMounts", .arr (container.mounts.map VolumeMount.toJson))]) ++
    container.extra

/-- The literal value of the first variable of a name. -/
def envValue (container : Container) (name : String) : Option String :=
  (container.env.find? (·.name == name)).bind (·.value)

end Container

end BuildScheduler
