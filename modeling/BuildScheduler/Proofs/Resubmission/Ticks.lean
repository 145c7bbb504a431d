import Mathlib.Data.List.Chain
import BuildScheduler.Ticker

/-!
# When ticks are delivered

A tick that comes on time, or late by no more than the tolerance, leaves the next one due a period
after it was due itself; a later one leaves the next due a period after it came. Either way the next
is due a period after the tick came, or earlier by no more than the tolerance: `paced_tick`. What is
said here of the ticks of a run of pauses comes from that.
-/

namespace BuildScheduler

namespace Ticker

/-- How a tick follows the one before it, when it is asked for a time after that one. -/
structure Follows (period tick busy next : Nat) : Prop where
  overdue : period ≤ busy → next = tick + busy
  notBefore : busy < period → tick + period ≤ next + tolerance
  notAfter : busy < period → next ≤ tick + period

/-- The next tick is due a period after a tick, or earlier by no more than the tolerance. -/
structure Paced (ticker : Ticker) (tick : Nat) : Prop where
  due_le : ticker.due ≤ tick + ticker.period
  le_due : tick + ticker.period ≤ ticker.due + tolerance

/-! ## One tick -/

section Ticks

variable (ticker : Ticker) (now : Nat)

theorem fst_tick : (ticker.tick now).1 = max now ticker.due := by
  unfold tick
  split
  · rename_i h
    exact (Nat.max_eq_right h).symm
  · rename_i h
    have hle : ticker.due ≤ now := Nat.le_of_not_le h
    split
    · exact (Nat.max_eq_left hle).symm
    · exact (Nat.max_eq_left hle).symm

theorem period_tick : (ticker.tick now).2.period = ticker.period := by
  unfold tick
  split
  · rfl
  · split <;> rfl

theorem paced_tick : (ticker.tick now).2.Paced (ticker.tick now).1 := by
  unfold tick
  split
  · exact ⟨Nat.le_refl _, Nat.le_add_right _ _⟩
  · rename_i hlate
    split
    · exact ⟨Nat.le_refl _, Nat.le_add_right _ _⟩
    · rename_i htolerated
      refine ⟨?_, ?_⟩
      · dsimp only
        omega
      · dsimp only
        omega

end Ticks

theorem Paced.follows {ticker : Ticker} {tick : Nat} (h : ticker.Paced tick) (busy : Nat) :
    Follows ticker.period tick busy (ticker.tick (tick + busy)).1 := by
  have hd := h.due_le
  have hl := h.le_due
  rw [fst_tick]
  refine ⟨?_, ?_, ?_⟩
  · intro hover
    omega
  · intro hwaits
    omega
  · intro hwaits
    omega

/-! ## The ticks of a run of pauses -/

section Deliveries

variable (ticker : Ticker) (now : Nat) (pauses : List Nat)

theorem deliveries_cons (pause : Nat) :
    ticker.deliveries now (pause :: pauses) =
      (ticker.tick now).1 ::
        (ticker.tick now).2.deliveries ((ticker.tick now).1 + pause) pauses := rfl

/-- The first tick comes a period after the start. -/
theorem head?_deliveries (period : Nat) :
    ∀ first ∈ ((start period now).deliveries now pauses).head?, first = now + period := by
  cases pauses with
  | nil => exact fun first h => nomatch h
  | cons pause rest =>
      intro first h
      rw [deliveries_cons, List.head?_cons, Option.mem_some_iff, fst_tick] at h
      exact h.symm.trans (Nat.max_eq_right (Nat.le_add_right now period))

/-- Each tick follows the one before it after the pause between them. -/
theorem deliveries_follow :
    ((ticker.deliveries now pauses).zip pauses).IsChain
      fun tick next => Follows ticker.period tick.1 tick.2 next.1 := by
  induction pauses generalizing ticker now with
  | nil => exact .nil
  | cons pause rest ih =>
      cases rest with
      | nil => exact .singleton _
      | cons other rest =>
          have hfollows := (paced_tick ticker now).follows pause
          have hrest := ih (ticker.tick now).2 ((ticker.tick now).1 + pause)
          rw [period_tick] at hfollows hrest
          exact .cons_cons hfollows hrest

end Deliveries

end Ticker

end BuildScheduler
