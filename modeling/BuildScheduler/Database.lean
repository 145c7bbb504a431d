import BuildScheduler.Error
import BuildScheduler.Lock

/-!
# Calls to a backing store

A call that fails is reported with the name it was about, or as being about the whole queue.
-/

namespace BuildScheduler

/-- What the operations of a store are asked. -/
inductive StoreCall where
  | put (record : LockRecord)
  | get (name : String)
  | delete (name : String)
  | defer (event : BuildEvent)
  | list
  | poll
  | remove (name : String)

namespace StoreCall

/-- The context of a failure of the whole queue. -/
def queueContext : String := "deferred builds"

def context : StoreCall → String
  | .put record => record.name
  | .get name => name
  | .delete name => name
  | .defer event => event.lockName
  | .list => queueContext
  | .poll => queueContext
  | .remove name => name

/-- The error of a call that failed for a reason. -/
def failure (call : StoreCall) (reason : String) : Error := .storage call.context reason

/-- The error of a call that the database refused. -/
def databaseFailure (call : StoreCall) (reason : String) : Error :=
  call.failure ("database error: " ++ reason)

end StoreCall

end BuildScheduler
