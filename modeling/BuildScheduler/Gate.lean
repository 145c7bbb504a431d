/-!
# The gate of the build queue

A launch goes ahead only while the gate is open. A new gate is open.
-/

namespace BuildScheduler

inductive Gate where
  | opened
  | closed
deriving DecidableEq, Repr, Inhabited

namespace Gate

def isOpen (gate : Gate) : Bool := gate == .opened

/-- The state as a word. -/
def word : Gate → String
  | .opened => "open"
  | .closed => "closed"

end Gate

end BuildScheduler
