import BuildScheduler.Reaper
import BuildScheduler.Resubmission
import BuildScheduler.Stores

/-!
# The daemon

A daemon is a world set up by a configuration, with up to two tasks beside it: a ticker that
launches the deferred builds at every tick, and a reaper that follows its watch sessions. The
tasks go on while the daemon sleeps, each at its times, and a shutdown ends both.
-/

namespace BuildScheduler

/-- The world that a configuration sets up. -/
def Config.world (config : Config) (start : Instant) (cluster : κ) : World κ where
  cluster
  start
  catalog := Catalog.ofList config.projects
  template := config.template
  ttl := config.lockTtl

structure Daemon where
  world : World Recorder
  interval : Span
  /-- The time of the next tick and the ticker after it, while there is a ticker. -/
  tick : Option (Nat × Ticker) := none
  reaper : Reaper := {}
  /-- What the reaper has still to do. -/
  agenda : Agenda := []

namespace Daemon

def ofConfig (config : Config) (start : Instant) (recorder : Recorder) : Daemon where
  world := config.world start recorder
  interval := config.deferralInterval

/-- Starts the ticker of the deferred builds. -/
def startTicker (daemon : Daemon) : Daemon :=
  let clock := daemon.world.clock
  { daemon with tick := some ((Ticker.start daemon.interval.nanos clock).tick clock) }

/-- Starts the reaper over the sessions that its watches will have. -/
def startReaper (sessions : List WatchSession) (daemon : Daemon) : Daemon :=
  { daemon with agenda := Reaper.agenda Reaper.defaultReconnectDelay sessions daemon.world.clock }

/-- Ends both tasks. -/
def shutdown (daemon : Daemon) : Daemon := { daemon with tick := none, agenda := [] }

/-- Launches the deferred builds at a tick; the next tick is asked for when that is done. A pass
that panics takes the ticker with it. -/
def pass (time : Nat) (ticker : Ticker) (daemon : Daemon) : Daemon :=
  let (pass, world) := daemon.world.pass Recorder.cluster time
  { daemon with world, tick := pass.map fun _ => ticker.tick world.clock }

/-- Takes one action of the reaper. -/
def reap (action : Nat × ReaperAction) (rest : Agenda) (daemon : Daemon) : Daemon :=
  let (reaper, cluster) := Reaper.act action daemon.reaper daemon.world.cluster
  { daemon with reaper, agenda := rest, world := { daemon.world with cluster, clock := action.1 } }

/-- What comes first of the tick and the reaper's next action, unless it comes after a time. -/
def step? (limit : Nat) (daemon : Daemon) : Option Daemon :=
  match daemon.tick, daemon.agenda with
  | none, [] => none
  | some (time, ticker), [] => if time ≤ limit then some (daemon.pass time ticker) else none
  | none, action :: rest => if action.1 ≤ limit then some (daemon.reap action rest) else none
  | some (time, ticker), action :: rest =>
      if time ≤ action.1 then if time ≤ limit then some (daemon.pass time ticker) else none
      else if action.1 ≤ limit then some (daemon.reap action rest)
      else none

/-- Takes steps up to a time. -/
def advance (limit : Nat) : Nat → Daemon → Daemon
  | 0, daemon => daemon
  | fuel + 1, daemon =>
      match daemon.step? limit with
      | some daemon => advance limit fuel daemon
      | none => daemon

/-- A bound on the steps up to a time: the actions of the reaper, and the ticks. -/
def stepsBefore (limit : Nat) (daemon : Daemon) : Nat :=
  daemon.agenda.length + (limit - daemon.world.clock) / daemon.interval.nanos + 2

/-- Sleeps while the tasks go on. -/
def sleep (nanos : Nat) (daemon : Daemon) : Daemon :=
  let limit := daemon.world.clock + nanos
  let daemon := daemon.advance limit (daemon.stepsBefore limit)
  { daemon with world := { daemon.world with clock := max daemon.world.clock limit } }

end Daemon

end BuildScheduler
