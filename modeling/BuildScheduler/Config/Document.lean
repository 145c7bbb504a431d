import BuildScheduler.Config.Basic
import BuildScheduler.Config.Error
import BuildScheduler.Kdl.Parser

/-!
# Configurations as documents

Each top-level node of a document is one setting, read over those before it. Nodes of other
names are passed over, and so are properties and children that a setting does not have. A value
of another type than a setting takes counts as absent.
-/

namespace BuildScheduler

namespace Kdl.Node

/-- The first argument, if it is a string. -/
def stringArgument? (node : Node) : Option String := node.argument?.bind Value.string?

/-- The first argument, if it is an integer. -/
def integerArgument? (node : Node) : Option Int := node.argument?.bind Value.integer?

def stringProperty? (node : Node) (name : String) : Option String :=
  (node.property? name).bind Value.string?

def integerProperty? (node : Node) (name : String) : Option Int :=
  (node.property? name).bind Value.integer?

end Kdl.Node

namespace Config

/-- What has to be there. -/
def require (setting : Setting) : Option α → Except ConfigError α
  | some value => .ok value
  | none => .error (.missing setting)

/-- An integer as a 64-bit count. -/
def count64 (setting : Setting) (value : Int) : Except ConfigError UInt64 :=
  if 0 ≤ value ∧ value ≤ 18446744073709551615 then .ok (UInt64.ofNat value.toNat)
  else .error (.invalid setting (.outOfRange value))

/-- A first argument that is a positive number of seconds. -/
def positiveSeconds (setting : Setting) (node : Kdl.Node) : Except ConfigError Span := do
  let value ← require setting node.integerArgument?
  let seconds ← count64 setting value
  if seconds = 0 then .error (.invalid setting .notPositive) else pure (Span.ofSeconds seconds)

/-- A first argument that names a backend. -/
def backend (setting : Setting) (node : Kdl.Node) : Except ConfigError Backend :=
  let word := node.stringArgument?.getD ""
  match Backend.ofName? word with
  | some backend => .ok backend
  | none => .error (.invalid setting (.unknownBackend word))

/-! Retrying -/

/-- A time limit in milliseconds; zero is none. -/
def retryTimeout : Option Int → Except ConfigError (Option Span)
  | none => .ok ({} : RetrySettings).timeout
  | some value =>
      if value = 0 then .ok none
      else (count64 .retryTimeout value).map fun millis => some (Span.ofMillis millis)

def retryAttempts : Option Int → Except ConfigError Nat
  | none => .ok ({} : RetrySettings).maxAttempts
  | some value =>
      if 1 ≤ value ∧ value ≤ 4294967295 then .ok value.toNat
      else .error (.invalid .retryAttempts (.tooFewAttempts value))

def retrySettings (node : Kdl.Node) : Except ConfigError RetrySettings := do
  let timeout ← retryTimeout (node.integerProperty? "timeout-ms")
  let maxAttempts ← retryAttempts (node.integerProperty? "max-attempts")
  pure { timeout, maxAttempts }

def scriptsSource (node : Kdl.Node) : Except ConfigError ScriptsSource := do
  let repository ← require .scriptsRepository (node.stringProperty? "repository")
  pure { repository, branch := (node.stringProperty? "branch").getD "master" }

/-! Projects -/

/-- The team and the name in a project key: one slash between two texts that are not empty. -/
def splitKey? (key : String) : Option (String × String) :=
  let team := key.toList.takeWhile (· != '/')
  match key.toList.drop team.length with
  | '/' :: name =>
      if team = [] ∨ name = [] ∨ '/' ∈ name then none
      else some (String.ofList team, String.ofList name)
  | _ => none

/-- The text of a sidecar, which has to describe a container. -/
def sidecar (key : String) (node : Kdl.Node) : Except ConfigError String := do
  let text ← require (.sidecarSpec key) node.stringArgument?
  match Container.ofText text with
  | .ok _ => pure text
  | .error error => .error (.invalid (.sidecar key) (.badContainer error))

def sidecars (key : String) (node : Kdl.Node) : Except ConfigError (List String) :=
  (node.children.filter (·.name == "sidecar")).mapM (sidecar key)

def descriptor (key : String) (node : Kdl.Node) : Except ConfigError Descriptor := do
  let image ← require (.image key) (node.stringProperty? "image")
  match Descriptor.make image (node.stringProperty? "managed-ref") with
  | .ok descriptor => pure descriptor
  | .error error => .error (.invalid (.managedRef key) (.badPattern error))

def project (node : Kdl.Node) : Except ConfigError Project := do
  let key ← require .projectKey node.stringArgument?
  match splitKey? key with
  | none => .error (.invalid .projectKey (.badProjectKey key))
  | some (team, name) => do
      let descriptor ← descriptor key node
      let sidecars ← sidecars key node
      pure { team, name, descriptor, sidecars }

/-- Adds a project at the end, unless its key is taken. -/
def addProject (project : Project) (config : Config) : Except ConfigError Config :=
  if config.projects.any (·.key == project.key) then .error (.duplicateProject project.key)
  else .ok { config with projects := config.projects ++ [project] }

/-! Documents -/

/-- Reads one node over the settings before it. -/
def readNode (config : Config) (node : Kdl.Node) : Except ConfigError Config :=
  match node.name with
  | "namespace" => do
      pure { config with nameSpace := ← require .nameSpace node.stringArgument? }
  | "lock-ttl-secs" => do pure { config with lockTtl := ← positiveSeconds .lockTtl node }
  | "deferral-interval-secs" => do
      pure { config with deferralInterval := ← positiveSeconds .deferralInterval node }
  | "lock-store" => do pure { config with lockStore := ← backend .lockStore node }
  | "deferral-store" => do pure { config with deferralStore := ← backend .deferralStore node }
  | "database-url" => .ok { config with databaseUrl := node.stringArgument? }
  | "retry" => do pure { config with retry := ← retrySettings node }
  | "build-scripts" => do pure { config with scripts := ← scriptsSource node }
  | "credentials" =>
      .ok { config with
        credentialsSecret := (node.stringProperty? "secret").getD config.credentialsSecret }
  | "project" => do
      let project ← project node
      config.addProject project
  | _ => .ok config

/-- A store in a database needs the URL of one. -/
def checkDatabase (config : Config) : Except ConfigError Config :=
  if config.needsDatabase && config.databaseUrl.isNone then .error (.missing .databaseUrl)
  else .ok config

/-- The configuration of a document. -/
def ofDocument (document : Kdl.Document) : Except ConfigError Config := do
  let config ← document.foldlM readNode {}
  config.checkDatabase

/-- The configuration of a text. -/
def ofText (text : String) : Except ConfigError Config :=
  match Kdl.parse text with
  | some document => ofDocument document
  | none => .error .unreadable

/-- The configuration of a file's bytes; none when there is no file. -/
def ofFile : Option ByteArray → Except ConfigError Config
  | none => .error .noSuchFile
  | some bytes =>
      match String.fromUTF8? bytes with
      | some text => ofText text
      | none => .error .notUtf8

end Config

end BuildScheduler
