import BuildScheduler.LockService
import BuildScheduler.PodTemplate

/-!
# Configurations

What the daemon is set up with, and its JSON form. Every setting has a default, so a
configuration without projects is complete.
-/

namespace BuildScheduler

/-- Where locks or deferred builds are kept. -/
inductive Backend where
  | memory
  | postgres
deriving DecidableEq, Repr

namespace Backend

/-- The word of a backend in a document, which is also the name of its stores. -/
def name : Backend → String
  | .memory => "memory"
  | .postgres => "postgres"

def all : List Backend := [.memory, .postgres]

def ofName? (word : String) : Option Backend := all.find? (·.name == word)

/-- The name of a backend in JSON. -/
def title : Backend → String
  | .memory => "Memory"
  | .postgres => "Postgres"

def decode : Json.Decoder Backend :=
  Json.Decode.variant (all.map fun backend => (backend.title, Json.Decode.bare backend))

def toJson (backend : Backend) : Json := .str backend.title

end Backend

/-- How calls to the cluster are retried. -/
structure RetrySettings where
  timeout : Option Span := some (Span.ofSeconds 10)
  maxAttempts : Nat := 3
deriving DecidableEq

namespace RetrySettings

instance : Inhabited RetrySettings := ⟨{}⟩

def record : Json.Record RetrySettings where
  title := "struct RetryConfig"
  blank := { timeout := none }
  fields := [
    ⟨"timeout", .optional, fun node settings => do
      pure { settings with timeout := ← Json.Decode.option Span.decode node }⟩,
    ⟨"max_attempts", .required, fun node settings => do
      pure { settings with maxAttempts := ← Json.Decode.nat32 node }⟩]

def decode : Json.Decoder RetrySettings := record.decode

def toJson (settings : RetrySettings) : Json :=
  Json.object [
    ("timeout", (settings.timeout.map Span.toJson).getD .null),
    ("max_attempts", .int settings.maxAttempts)]

end RetrySettings

/-- The repository of the build scripts that every build pod mounts. -/
structure ScriptsSource where
  repository : String := ""
  branch : String := "master"
deriving DecidableEq

namespace ScriptsSource

instance : Inhabited ScriptsSource := ⟨{}⟩

def record : Json.Record ScriptsSource where
  title := "struct BuildScriptsConfig"
  blank := default
  fields := [
    ⟨"repository", .required,
      fun node source => do pure { source with repository := ← Json.Decode.string node }⟩,
    ⟨"branch", .required,
      fun node source => do pure { source with branch := ← Json.Decode.string node }⟩]

def decode : Json.Decoder ScriptsSource := record.decode

def toJson (source : ScriptsSource) : Json :=
  Json.object [("repository", .str source.repository), ("branch", .str source.branch)]

end ScriptsSource

structure Config where
  /-- The namespace of the cluster that build pods are created in. -/
  nameSpace : String := "decap"
  lockTtl : Span := defaultLockTtl
  deferralInterval : Span := Span.ofSeconds 60
  lockStore : Backend := .memory
  deferralStore : Backend := .memory
  databaseUrl : Option String := none
  retry : RetrySettings := {}
  scripts : ScriptsSource := {}
  credentialsSecret : String := credentialsVolume
  projects : List Project := []
deriving DecidableEq

namespace Config

instance : Inhabited Config := ⟨{}⟩

/-- Whether a store is kept in a database. -/
def needsDatabase (config : Config) : Bool :=
  config.lockStore == .postgres || config.deferralStore == .postgres

def template (config : Config) : PodTemplate where
  repository := config.scripts.repository
  branch := config.scripts.branch
  credentialsSecret := config.credentialsSecret

def record : Json.Record Config where
  title := "struct SystemConfig"
  blank := default
  fields := [
    ⟨"namespace", .required,
      fun node config => do pure { config with nameSpace := ← Json.Decode.string node }⟩,
    ⟨"lock_ttl", .required,
      fun node config => do pure { config with lockTtl := ← Span.decode node }⟩,
    ⟨"deferral_interval", .required,
      fun node config => do pure { config with deferralInterval := ← Span.decode node }⟩,
    ⟨"lock_store", .required,
      fun node config => do pure { config with lockStore := ← Backend.decode node }⟩,
    ⟨"deferral_store", .required,
      fun node config => do pure { config with deferralStore := ← Backend.decode node }⟩,
    ⟨"database_url", .optional, fun node config => do
      pure { config with databaseUrl := ← Json.Decode.option Json.Decode.string node }⟩,
    ⟨"retry", .required,
      fun node config => do pure { config with retry := ← RetrySettings.decode node }⟩,
    ⟨"build_scripts", .required,
      fun node config => do pure { config with scripts := ← ScriptsSource.decode node }⟩,
    ⟨"credentials_secret", .required,
      fun node config => do pure { config with credentialsSecret := ← Json.Decode.string node }⟩,
    ⟨"projects", .required, fun node config => do
      pure { config with projects := ← Json.Decode.list Project.decode node }⟩]

def decode : Json.Decoder Config := record.decode

def toJson (config : Config) : Json :=
  Json.object [
    ("namespace", .str config.nameSpace),
    ("lock_ttl", config.lockTtl.toJson),
    ("deferral_interval", config.deferralInterval.toJson),
    ("lock_store", config.lockStore.toJson),
    ("deferral_store", config.deferralStore.toJson),
    ("database_url", (config.databaseUrl.map Json.str).getD .null),
    ("retry", config.retry.toJson),
    ("build_scripts", config.scripts.toJson),
    ("credentials_secret", .str config.credentialsSecret),
    ("projects", .arr (config.projects.map Project.toJson))]

end Config

end BuildScheduler
