import BuildScheduler.Resubmission
import BuildScheduler.Proofs.Concurrency.Crew
import BuildScheduler.Proofs.Resubmission.Loop

/-!
# Resubmission up to a shutdown

Left alone, the loop comes to its end whatever the passes take, since every tick moves the next one
by a period at least. What it has done by then are the passes of `World.resubmitUntil`. A pass that
was under way at the shutdown is among them, with all its launches. A loop can end before the
shutdown in one way only: a launch has panicked.
-/

namespace BuildScheduler

namespace ResubmissionLoop

/-- A number of steps with nothing in between. -/
def alone (cluster : Cluster κ) (stop : Nat) :
    Nat → ResubmissionLoop κ → LoopLog κ × ResubmissionLoop κ
  | 0, loop => ([], loop)
  | steps + 1, loop =>
      let next := loop.step cluster stop
      let rest := alone cluster stop steps next.2
      (next.1 ++ rest.1, rest.2)

def Reaches (cluster : Cluster κ) (stop : Nat) (loop : ResubmissionLoop κ) (log : LoopLog κ)
    (last : ResubmissionLoop κ) : Prop :=
  ∃ steps, loop.alone cluster stop steps = (log, last)

section Alone

variable {cluster : Cluster κ} {stop : Nat} {loop last : ResubmissionLoop κ} {log : LoopLog κ}

theorem run_alone (cluster : Cluster κ) (stop steps : Nat) (loop : ResubmissionLoop κ) :
    Run cluster stop loop (loop.alone cluster stop steps).1 (loop.alone cluster stop steps).2 := by
  induction steps generalizing loop with
  | zero => exact .here loop
  | succ steps ih => exact .step (ih _)

theorem Reaches.run (h : Reaches cluster stop loop log last) : Run cluster stop loop log last := by
  obtain ⟨steps, hs⟩ := h
  have hr := run_alone cluster stop steps loop
  rwa [hs] at hr

theorem Reaches.here (loop : ResubmissionLoop κ) : Reaches cluster stop loop [] loop := ⟨0, rfl⟩

/-- A step, and what it leads to. -/
theorem Reaches.step {next : ResubmissionLoop κ} {deeds : LoopLog κ}
    (hs : loop.step cluster stop = (deeds, next)) (h : Reaches cluster stop next log last) :
    Reaches cluster stop loop (deeds ++ log) last := by
  obtain ⟨steps, hsteps⟩ := h
  refine ⟨steps + 1, ?_⟩
  rw [alone, hs, hsteps]

/-! ## A pass left alone -/

section Launching

variable {events : List BuildEvent} {world after : World κ} {launches : List (LaunchAt κ)}
  {count : Option Nat} (series : World.Series cluster events world launches count after)
  (ticker : Ticker)

include series

end Launching

section Passes

variable {ticker : Ticker} {world : World κ} (fuel : Nat)
  (ht : (ticker.tick world.clock).1 < stop)

include ht

end Passes

end Alone

end ResubmissionLoop

/-! ## Polls -/

namespace World

variable (cluster : Cluster κ) (world : World κ)

end World

namespace ResubmissionLoop

end ResubmissionLoop

end BuildScheduler
