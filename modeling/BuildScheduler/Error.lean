/-!
# Errors of the scheduler

One cause for each way in which a call can fail, with its message.
-/

namespace BuildScheduler

inductive Error where
  | projectNotFound (key : String)
  | refNotManaged (project ref : String)
  | lockHeld (name : String)
  | podCreationFailed (reason : String)
  | podDeletionFailed (reason : String)
  | watchStream (reason : String)
  | storage (context reason : String)
  | invalidInput (reason : String)
  | timeout (reason : String)
  | internal (reason : String)
deriving DecidableEq, Repr

def Error.message : Error → String
  | .projectNotFound key => "project not found: " ++ key
  | .refNotManaged project ref => "ref " ++ ref ++ " is not managed on project " ++ project
  | .lockHeld name => "lock held: " ++ name
  | .podCreationFailed reason => "pod creation failed: " ++ reason
  | .podDeletionFailed reason => "pod deletion failed: " ++ reason
  | .watchStream reason => "watch stream error: " ++ reason
  | .storage context reason => "storage error for " ++ context ++ ": " ++ reason
  | .invalidInput reason => "invalid input: " ++ reason
  | .timeout reason => "timeout: " ++ reason
  | .internal reason => "internal error: " ++ reason

/-- The result of a call. -/
abbrev Result (α : Type) := Except Error α

end BuildScheduler
