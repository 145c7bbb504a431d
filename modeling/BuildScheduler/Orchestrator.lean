import BuildScheduler.Cluster
import BuildScheduler.Database
import BuildScheduler.Deferral
import BuildScheduler.Gate
import BuildScheduler.Launch
import BuildScheduler.LockService

/-!
# The orchestrator

A world is all that launches work with: the clock, the gate, the catalog, the lock store, the
queue of deferred builds and a cluster. Its operations are those of the scheduler. Outages
planned for the stores make calls fail before they have any effect.
-/

namespace BuildScheduler

structure LockOutages where
  put : Outages String := {}
  get : Outages String := {}
  delete : Outages String := {}

structure QueueOutages where
  defer : Outages String := {}
  list : Outages String := {}
  poll : Outages String := {}
  remove : Outages String := {}

structure World (κ : Type) where
  cluster : κ
  /-- Nanoseconds since the start. -/
  clock : Nat := 0
  start : Instant
  gate : Gate := .opened
  catalog : Catalog
  template : PodTemplate
  ttl : Span
  ids : IdSupply := {}
  locks : LockStore := {}
  queue : DeferralQueue := {}
  lockOutages : LockOutages := {}
  queueOutages : QueueOutages := {}

namespace World

def now (world : World κ) : Instant := world.start.add world.clock

/-- Lets time pass. -/
def wait (world : World κ) (nanos : Nat) : World κ := { world with clock := world.clock + nanos }

/-- Milliseconds of the clock since the epoch. -/
def millis (world : World κ) : Nat :=
  (world.now.second * 1000 + (world.now.nano / nanosPerMilli : Nat)).toNat

def mint (world : World κ) : BuildId × World κ :=
  let (id, ids) := world.ids.next world.millis
  (id, { world with ids })

/-! The lock store -/

/-- Writes a lock record unless its name has a live one. -/
def putLock (record : LockRecord) (now : Instant) (world : World κ) : Result Bool × World κ :=
  let (failure, put) := world.lockOutages.put.next
  let world := { world with lockOutages := { world.lockOutages with put } }
  match failure with
  | some reason => (.error ((StoreCall.put record).failure reason), world)
  | none =>
      let (written, locks) := world.locks.put record now
      (.ok written, { world with locks })

/-- Deletes the lock record of a name. -/
def deleteLock (name : String) (world : World κ) : Result Unit × World κ :=
  let (failure, delete) := world.lockOutages.delete.next
  let world := { world with lockOutages := { world.lockOutages with delete } }
  match failure with
  | some reason => (.error ((StoreCall.delete name).failure reason), world)
  | none => (.ok (), { world with locks := world.locks.delete name })

/-- Takes the lock of an event at the clock of the call; none if that panics. -/
def acquire (event : BuildEvent) (world : World κ) : Option (Result LockRecord × World κ) :=
  acquireLock putLock event world.now world.ttl world

/-- Drops the lock of an event, whoever holds it. -/
def release (event : BuildEvent) (world : World κ) : Result Unit × World κ :=
  world.deleteLock event.lockName

/-- The record of a lock name, expired or not. -/
def currentLock (name : String) (world : World κ) : Result (Option LockRecord) × World κ :=
  let (failure, get) := world.lockOutages.get.next
  let world := { world with lockOutages := { world.lockOutages with get } }
  match failure with
  | some reason => (.error ((StoreCall.get name).failure reason), world)
  | none => (.ok (world.locks.get? name), world)

/-! The queue of deferred builds -/

/-- Queues an event, stamped with the clock. -/
def deferBuild (event : BuildEvent) (world : World κ) : Result Unit × World κ :=
  let (failure, defer) := world.queueOutages.defer.next
  let world := { world with queueOutages := { world.queueOutages with defer } }
  match failure with
  | some reason => (.error ((StoreCall.defer event).failure reason), world)
  | none => (.ok (), { world with queue := world.queue.defer event world.now })

/-- The deferred builds in order. -/
def deferredBuilds (world : World κ) : Result (List BuildEvent) × World κ :=
  let (failure, list) := world.queueOutages.list.next
  let world := { world with queueOutages := { world.queueOutages with list } }
  match failure with
  | some reason => (.error (StoreCall.list.failure reason), world)
  | none => (.ok world.queue.entries, world)

/-- Takes the deferred builds out of the queue. -/
def pollDeferred (world : World κ) : Result (List BuildEvent) × World κ :=
  let (failure, poll) := world.queueOutages.poll.next
  let world := { world with queueOutages := { world.queueOutages with poll } }
  match failure with
  | some reason => (.error (StoreCall.poll.failure reason), world)
  | none =>
      let (events, queue) := world.queue.poll
      (.ok events, { world with queue })

/-- Drops the deferred build of a lock name. -/
def clearDeferred (name : String) (world : World κ) : Result Unit × World κ :=
  let (failure, remove) := world.queueOutages.remove.next
  let world := { world with queueOutages := { world.queueOutages with remove } }
  match failure with
  | some reason => (.error ((StoreCall.remove name).failure reason), world)
  | none => (.ok (), { world with queue := world.queue.remove name })

/-! The cluster -/

/-- Takes the answer of the cluster, after the time it took. -/
def answered (world : World κ) (answer : Reply × κ) : Result Unit × World κ :=
  (answer.1.result, { world with cluster := answer.2, clock := world.clock + answer.1.elapsed })

def createPod (cluster : Cluster κ) (spec : PodSpec) (world : World κ) : Result Unit × World κ :=
  world.answered (cluster.create world.clock spec world.cluster)

def deletePod (cluster : Cluster κ) (name : String) (world : World κ) : Result Unit × World κ :=
  world.answered (cluster.delete world.clock name world.cluster)

/-! Launching -/

/-- What launches work with in a world. -/
def site (cluster : Cluster κ) : Site (World κ) where
  isOpen world := world.gate.isOpen
  project? key world := world.catalog.find? key
  mint := mint
  assemble event id project world := world.template.buildPod event id project
  acquire := acquire
  defer := deferBuild
  create := createPod cluster
  release := release

def launch (cluster : Cluster κ) (event : BuildEvent) (world : World κ) :
    Option (Result LaunchOutcome) × World κ :=
  (site cluster).launch event world

/-- Launches events one after another; counts those launched. A launch that panics ends it, and
there is no count. -/
def launchAll (cluster : Cluster κ) : List BuildEvent → World κ → Option Nat × World κ
  | [], world => (some 0, world)
  | event :: rest, world =>
      match world.launch cluster event with
      | (none, world) => (none, world)
      | (some result, world) =>
          let (count, world) := launchAll cluster rest world
          let launched := match result with
            | .ok outcome => outcome.isLaunched
            | .error _ => false
          (count.map (· + launched.toNat), world)

/-- Launches every deferred build once; counts those launched. -/
def relaunchDeferred (cluster : Cluster κ) (world : World κ) : Option Nat × World κ :=
  match world.pollDeferred with
  | (.ok events, world) => launchAll cluster events world
  | (.error _, world) => (some 0, world)

/-- A pass over the deferred builds at each of a number of ticks, unless one panics. -/
def launchDeferred (cluster : Cluster κ) : Nat → World κ → Option Unit × World κ
  | 0, world => (some (), world)
  | ticks + 1, world =>
      match world.relaunchDeferred cluster with
      | (none, world) => (none, world)
      | (some _, world) => launchDeferred cluster ticks world

def openQueue (world : World κ) : World κ := { world with gate := .opened }

def closeQueue (world : World κ) : World κ := { world with gate := .closed }

end World

end BuildScheduler
