import BuildScheduler.BuildId

/-!
# Build events

An event asks for a build of one ref of one project. Launching gives it an identifier, and
deferring it a time. Two names follow from it: the key of its project, and the name of its lock.
-/

namespace BuildScheduler

structure BuildEvent where
  team : String
  project : String
  ref : String
  id : Option BuildId := none
  deferredAt : Option Instant := none
deriving DecidableEq

namespace BuildEvent

instance : Inhabited BuildEvent := ⟨{ team := "", project := "", ref := "" }⟩

/-- Team and project, the key of the catalog. -/
def projectKey (event : BuildEvent) : String := event.team ++ "/" ++ event.project

/-- Team, project and ref, the name for locking and deferring. -/
def lockName (event : BuildEvent) : String :=
  event.team ++ "/" ++ event.project ++ "/" ++ event.ref

@[simp] theorem lockName_id (event : BuildEvent) (id : Option BuildId) :
    ({ event with id := id } : BuildEvent).lockName = event.lockName := rfl

@[simp] theorem lockName_deferredAt (event : BuildEvent) (time : Option Instant) :
    ({ event with deferredAt := time } : BuildEvent).lockName = event.lockName := rfl

def record : Json.Record BuildEvent where
  title := "struct BuildEvent"
  blank := default
  fields := [
    ⟨"team", .required, fun node event => do pure { event with team := ← Json.Decode.string node }⟩,
    ⟨"project", .required,
      fun node event => do pure { event with project := ← Json.Decode.string node }⟩,
    ⟨"ref", .required, fun node event => do pure { event with ref := ← Json.Decode.string node }⟩,
    ⟨"id", .defaulted,
      fun node event => do pure { event with id := ← Json.Decode.option BuildId.decode node }⟩,
    ⟨"deferred_at", .defaulted, fun node event => do
      pure { event with deferredAt := ← Json.Decode.option Instant.decode node }⟩]

def decode : Json.Decoder BuildEvent := record.decode

/-- What is unset is left out. -/
def toJson (event : BuildEvent) : Json :=
  Json.object <|
    [("team", .str event.team), ("project", .str event.project), ("ref", .str event.ref)] ++
    (event.id.map fun id => ("id", id.toJson)).toList ++
    (event.deferredAt.map fun time => ("deferred_at", time.toJson)).toList

end BuildEvent

end BuildScheduler
