import BuildScheduler.Event

/-!
# The queue of deferred builds

Entries are in the order in which they were first deferred, at most one a lock name. An entry
is stamped when it goes in, and a second event of its name changes nothing. A poll takes
everything out.
-/

namespace BuildScheduler

structure DeferralQueue where
  entries : List BuildEvent := []
deriving DecidableEq

namespace DeferralQueue

def empty : DeferralQueue := {}

def size (queue : DeferralQueue) : Nat := queue.entries.length

def isEmpty (queue : DeferralQueue) : Bool := queue.entries.isEmpty

def lockNames (queue : DeferralQueue) : List String := queue.entries.map BuildEvent.lockName

def contains (queue : DeferralQueue) (name : String) : Bool :=
  queue.entries.any (·.lockName == name)

/-- Puts an event at the end, stamped, unless its lock name is queued. -/
def defer (queue : DeferralQueue) (event : BuildEvent) (now : Instant) : DeferralQueue :=
  if queue.contains event.lockName then queue
  else ⟨queue.entries ++ [{ event with deferredAt := some now }]⟩

/-- Everything in order, leaving nothing. -/
def poll (queue : DeferralQueue) : List BuildEvent × DeferralQueue := (queue.entries, empty)

/-- Drops the entry of a lock name. -/
def remove (queue : DeferralQueue) (name : String) : DeferralQueue :=
  ⟨queue.entries.filter (·.lockName != name)⟩

theorem contains_iff (queue : DeferralQueue) (name : String) :
    queue.contains name ↔ name ∈ queue.lockNames := by
  simp [contains, lockNames]

theorem lockNames_defer (queue : DeferralQueue) (event : BuildEvent) (now : Instant) :
    (queue.defer event now).lockNames =
      if event.lockName ∈ queue.lockNames then queue.lockNames
      else queue.lockNames ++ [event.lockName] := by
  by_cases h : event.lockName ∈ queue.lockNames
  · simp [defer, (contains_iff queue _).2 h, h]
  · have hc : queue.contains event.lockName = false := by
      simpa using mt (contains_iff queue _).1 h
    rw [if_neg h]
    simp only [defer, hc, Bool.false_eq_true, if_false, lockNames, List.map_append, List.map_cons,
      List.map_nil]
    rfl

theorem mem_lockNames_defer {queue : DeferralQueue} {event : BuildEvent} {now : Instant}
    {name : String} :
    name ∈ (queue.defer event now).lockNames ↔ name ∈ queue.lockNames ∨ name = event.lockName := by
  rw [lockNames_defer]
  split
  · rename_i h
    exact ⟨Or.inl, fun hn => hn.elim id fun e => e ▸ h⟩
  · simp

/-- A deferral adds one entry of its lock name if there was none. -/
theorem count_lockNames_defer (queue : DeferralQueue) (event : BuildEvent) (now : Instant)
    (name : String) :
    (queue.defer event now).lockNames.count name = queue.lockNames.count name +
      if event.lockName = name ∧ name ∉ queue.lockNames then 1 else 0 := by
  rw [lockNames_defer]
  by_cases hn : event.lockName = name
  · subst hn
    by_cases hm : event.lockName ∈ queue.lockNames
    · simp [hm]
    · simp [hm]
  · split
    · simp [hn]
    · simp [hn]

theorem lockNames_remove (queue : DeferralQueue) (name : String) :
    (queue.remove name).lockNames = queue.lockNames.filter (· != name) := by
  simp [remove, lockNames, List.filter_map, Function.comp_def]

end DeferralQueue

/-! Rows of a table of deferred builds -/

/-- A deferred build as a row; `seq` counts insertions. -/
structure DeferredRow where
  team : String
  project : String
  ref : String
  id : Option BuildId
  deferredAt : Instant
  seq : Int
deriving DecidableEq

namespace DeferredRow

def toEvent (row : DeferredRow) : BuildEvent where
  team := row.team
  project := row.project
  ref := row.ref
  id := row.id
  deferredAt := some row.deferredAt

/-- Whether a row comes no later than another: by time, then by insertion. -/
def notAfter (a b : DeferredRow) : Bool :=
  a.deferredAt < b.deferredAt || (a.deferredAt.key == b.deferredAt.key && a.seq ≤ b.seq)

/-- The events of rows in the order in which they were first deferred. -/
def events (rows : List DeferredRow) : List BuildEvent := (rows.mergeSort notAfter).map toEvent

end DeferredRow

end BuildScheduler
