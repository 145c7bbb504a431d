import BuildScheduler.Config.Basic

/-!
# Opening stores

Locks and deferred builds are each kept where the configuration says. A database is connected
to once if either store needs it, and not at all otherwise.
-/

namespace BuildScheduler

/-- The backends of the opened stores. -/
structure Stores where
  locks : Backend
  deferrals : Backend
deriving DecidableEq, Repr

/-- Why stores could not be opened. -/
inductive StoresError where
  | noDatabaseUrl
  | noConnection (url : String)
deriving DecidableEq, Repr

def StoresError.message : StoresError → String
  | .noDatabaseUrl => "database-url is required for postgres stores"
  | .noConnection url => "cannot connect to the database at " ++ url

/-- Opens the configured stores; `connects` says which databases can be reached. -/
def Config.openStores (connects : String → Bool) (config : Config) : Except StoresError Stores :=
  if config.needsDatabase then
    match config.databaseUrl with
    | none => .error .noDatabaseUrl
    | some url =>
        if connects url then .ok ⟨config.lockStore, config.deferralStore⟩
        else .error (.noConnection url)
  else .ok ⟨.memory, .memory⟩

end BuildScheduler
