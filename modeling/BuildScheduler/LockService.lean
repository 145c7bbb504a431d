import BuildScheduler.Error
import BuildScheduler.Lock

/-!
# Acquiring and releasing locks

A lock is written with the instant at which it expires: the time to live after the clock. A time
to live of more than `2 ^ 63 - 1` milliseconds counts as the default one. A sum that is beyond the
calendar is no instant, and working it out panics before the store is called.
-/

namespace BuildScheduler

/-- Three hours. -/
def defaultLockTtl : Span := Span.ofSeconds 10800

namespace Span

/-- The longest time to live that is taken as it is. -/
def longestTtl : Nat := 9223372036854775807 * nanosPerMilli

/-- The time to live that a configured span stands for. -/
def effectiveTtl (ttl : Span) : Span := if ttl.nanos ≤ longestTtl then ttl else defaultLockTtl

/-- The calendar has the instant at which a lock taken now expires. -/
def Fits (ttl : Span) (now : Instant) : Prop := (now.add ttl.effectiveTtl.nanos).InCalendar

instance (ttl : Span) (now : Instant) : Decidable (ttl.Fits now) := by unfold Fits; infer_instance

end Span

/-- The record that a launch writes for an event, if its instant of expiry is in the calendar. -/
def BuildEvent.lockRecord (event : BuildEvent) (now : Instant) (ttl : Span) : LockRecord :=
  ⟨event.lockName, now.add ttl.effectiveTtl.nanos⟩

@[simp] theorem BuildEvent.name_lockRecord (event : BuildEvent) (now : Instant) (ttl : Span) :
    (event.lockRecord now ttl).name = event.lockName := rfl

/-- What the answer of the put of a record means for the lock. -/
def LockRecord.taken (record : LockRecord) : Result Bool → Result LockRecord
  | .ok true => .ok record
  | .ok false => .error (.lockHeld record.name)
  | .error error => .error error

/-- Takes the lock of an event by one conditional put; none if that panics. -/
def acquireLock (put : LockRecord → Instant → σ → Result Bool × σ) (event : BuildEvent)
    (now : Instant) (ttl : Span) (state : σ) : Option (Result LockRecord × σ) :=
  if ttl.Fits now then
    let record := event.lockRecord now ttl
    let (answer, state) := put record now state
    some (record.taken answer, state)
  else none

/-- Takes the lock of an event in a store that answers every call. -/
def LockStore.acquire (store : LockStore) (event : BuildEvent) (now : Instant) (ttl : Span) :
    Option (Result LockRecord × LockStore) :=
  acquireLock (fun record now (store : LockStore) =>
    let (written, store) := store.put record now
    (.ok written, store)) event now ttl store

end BuildScheduler
