import BuildScheduler.Orchestrator
import BuildScheduler.Ticker

/-!
# Resubmitting deferred builds

At every tick there is one pass over the deferred builds, and the next tick is asked for when the
pass is over. A pass that has begun is finished, and none begins at a shutdown or after it.
-/

namespace BuildScheduler

/-- One pass: when it began and ended, and how many builds it launched. -/
structure Pass where
  start : Nat
  finish : Nat
  launched : Nat
deriving DecidableEq, Repr

namespace World

/-- The pass that begins at a time, unless it panics. -/
def pass (cluster : Cluster κ) (time : Nat) (world : World κ) : Option Pass × World κ :=
  let (launched, world) := { world with clock := time }.relaunchDeferred cluster
  (launched.map (⟨time, world.clock, ·⟩), world)

/-- The passes that begin before a shutdown; fuel bounds their number. A pass that panics is the
last one, and not among them. -/
def passes (cluster : Cluster κ) (stop : Nat) : Nat → Ticker → World κ → List Pass × World κ
  | 0, _, world => ([], world)
  | fuel + 1, ticker, world =>
      let (time, ticker) := ticker.tick world.clock
      if time < stop then
        match world.pass cluster time with
        | (none, world) => ([], world)
        | (some pass, world) =>
            let (more, world) := passes cluster stop fuel ticker world
            (pass :: more, world)
      else ([], world)

end World

end BuildScheduler
