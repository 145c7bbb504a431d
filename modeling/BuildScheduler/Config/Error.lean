import BuildScheduler.Error
import BuildScheduler.Json.ReadError

/-!
# Why a configuration was refused

Each error names the setting it is about, by project where there may be several.
-/

namespace BuildScheduler

inductive Setting where
  | nameSpace
  | lockTtl
  | deferralInterval
  | lockStore
  | deferralStore
  | databaseUrl
  | retryTimeout
  | retryAttempts
  | scriptsRepository
  | projectKey
  | image (project : String)
  | managedRef (project : String)
  | sidecarSpec (project : String)
  | sidecar (project : String)
deriving DecidableEq, Repr

namespace Setting

/-- A setting of one project. -/
def ofProject (what project : String) : String := what ++ " for project '" ++ project ++ "'"

def name : Setting → String
  | .nameSpace => "namespace"
  | .lockTtl => "lock-ttl-secs"
  | .deferralInterval => "deferral-interval-secs"
  | .lockStore => "lock-store"
  | .deferralStore => "deferral-store"
  | .databaseUrl => "database-url"
  | .retryTimeout => "retry timeout-ms"
  | .retryAttempts => "retry max-attempts"
  | .scriptsRepository => "build-scripts repository"
  | .projectKey => "project key"
  | .image project => ofProject "image" project
  | .managedRef project => ofProject "managed-ref" project
  | .sidecarSpec project => ofProject "sidecar spec" project
  | .sidecar project => ofProject "sidecar" project

end Setting

/-- What is wrong with the value of a setting. -/
inductive BadValue where
  | unknownBackend (word : String)
  | notPositive
  | outOfRange (value : Int)
  | tooFewAttempts (value : Int)
  | badProjectKey (key : String)
  | badPattern (error : Error)
  | badContainer (error : Json.ReadError)
deriving DecidableEq

def BadValue.message : BadValue → String
  | .unknownBackend word => "unknown store backend: " ++ word
  | .notPositive => "must be positive"
  | .outOfRange value => "out of range: " ++ toString value
  | .tooFewAttempts value => "must be at least 1, got " ++ toString value
  | .badProjectKey key => "expected team/project, got " ++ key
  | .badPattern error => error.message
  | .badContainer error => error.message

inductive ConfigError where
  /-- The text is no document. -/
  | unreadable
  | missing (setting : Setting)
  | invalid (setting : Setting) (cause : BadValue)
  | duplicateProject (key : String)
  | noSuchFile
  | notUtf8
deriving DecidableEq

def ConfigError.message : ConfigError → String
  | .unreadable => "KDL parse error: Failed to parse KDL document"
  | .missing setting => "missing required field: " ++ setting.name
  | .invalid setting cause => "invalid value for " ++ setting.name ++ ": " ++ cause.message
  | .duplicateProject key => "duplicate definition: project " ++ key
  | .noSuchFile => "IO error: no such file"
  | .notUtf8 => "IO error: the file is not valid UTF-8"

end BuildScheduler
