import BuildScheduler.Cluster

/-!
# Reaping finished build pods

The reaper watches build pods and deletes each one once, after its build has run. A name counts
as reaped when its deletion succeeded, so a failed deletion is tried again at the next sight of
the finished pod. What a run of watch sessions shows, and when, does not depend on the answers
to deletions: it is the agenda of the sessions.
-/

namespace BuildScheduler

structure Reaper where
  reaped : List String := []
deriving DecidableEq

namespace Reaper

def hasReaped (reaper : Reaper) (name : String) : Bool := reaper.reaped.contains name

/-- Whether a pod is to be deleted at its sight. -/
def wants (reaper : Reaper) (pod : PodObservation) : Bool :=
  pod.buildFinished && !reaper.hasReaped pod.name

/-- Deals with the sight of a pod: says whether it was deleted now. -/
def handle (delete : String → σ → Result Unit × σ) (pod : PodObservation) (reaper : Reaper)
    (state : σ) : Bool × Reaper × σ :=
  if reaper.wants pod then
    match delete pod.name state with
    | (.ok _, state) => (true, ⟨pod.name :: reaper.reaped⟩, state)
    | (.error _, state) => (false, reaper, state)
  else (false, reaper, state)

end Reaper

/-! Watch sessions -/

/-- An item of a watch, with the nanoseconds since the item before it was dealt with. -/
structure WatchItem where
  delay : Nat
  content : Result PodObservation

/-- One watch: it cannot be opened, or it delivers items and then ends or falls silent. -/
inductive WatchSession where
  | failed (error : Error)
  | stream (items : List WatchItem) (ends : Bool)

/-- What the reaper does at a time. -/
inductive ReaperAction where
  | subscribe
  | sight (pod : PodObservation)
deriving DecidableEq

/-- The actions that become due, in order of time. -/
abbrev Agenda := List (Nat × ReaperAction)

namespace WatchSession

/-- The sights of items up to the first error, and the time at which the session is over; none
when it falls silent first. -/
def sights (ends : Bool) : List WatchItem → Nat → Agenda × Option Nat
  | [], time => ([], if ends then some time else none)
  | item :: rest, time =>
      match item.content with
      | .ok pod =>
          let (agenda, finish) := sights ends rest (time + item.delay)
          ((time + item.delay, .sight pod) :: agenda, finish)
      | .error _ => ([], some (time + item.delay))

/-- What a session shows when opened at a time. -/
def agenda (time : Nat) : WatchSession → Agenda × Option Nat
  | .failed _ => ([], some time)
  | .stream items ends => sights ends items time

end WatchSession

namespace Reaper

/-- The pause between a watch that is over and the next one. -/
def defaultReconnectDelay : Nat := nanosPerSecond

/-- The actions of a run over sessions; after the last one a watch stays silent. -/
def agenda (reconnectDelay : Nat) : List WatchSession → Nat → Agenda
  | [], time => [(time, .subscribe)]
  | session :: rest, time =>
      let (sights, finish) := session.agenda time
      (time, .subscribe) :: sights ++
        match finish with
        | some time => agenda reconnectDelay rest (time + reconnectDelay)
        | none => []

/-- The actions that a run takes when it is shut down at a time. -/
def agendaBefore (stop : Nat) (agenda : Agenda) : Agenda := agenda.takeWhile (·.1 < stop)

/-- Takes one action against the recording cluster. -/
def act (action : Nat × ReaperAction) (reaper : Reaper) (recorder : Recorder) : Reaper × Recorder :=
  match action with
  | (time, .subscribe) => (reaper, recorder.subscribe time buildPodSelector)
  | (time, .sight pod) =>
      let (_, reaper, recorder) := reaper.handle (fun name => Recorder.delete time name) pod recorder
      (reaper, recorder)

/-- Takes actions in order. -/
def run (agenda : Agenda) (reaper : Reaper) (recorder : Recorder) : Reaper × Recorder :=
  agenda.foldl (fun state action => act action state.1 state.2) (reaper, recorder)

end Reaper

end BuildScheduler
