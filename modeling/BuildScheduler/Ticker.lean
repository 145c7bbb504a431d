/-!
# Ticks

The first tick is due one period after the start, which has to be a time that the clock can show:
a period of up to `2 ^ 63` seconds, less the time that the machine is up. A tick that is asked for
late is delivered at once, and by more than five milliseconds late moves the next one to a period
after it; otherwise the next is due a period after the last was due. Times are nanoseconds.
-/

namespace BuildScheduler

structure Ticker where
  period : Nat
  /-- When the next tick is due. -/
  due : Nat
deriving DecidableEq, Repr

namespace Ticker

def start (period now : Nat) : Ticker := ⟨period, now + period⟩

/-- How late a tick may be without moving the next one. -/
def tolerance : Nat := 5000000

/-- The time at which a tick asked for at a time is delivered, and the ticker after it. -/
def tick (ticker : Ticker) (now : Nat) : Nat × Ticker :=
  if now ≤ ticker.due then (ticker.due, { ticker with due := ticker.due + ticker.period })
  else if ticker.due + tolerance < now then (now, { ticker with due := now + ticker.period })
  else (now, { ticker with due := ticker.due + ticker.period })

/-- The times of ticks, each followed by a pause. -/
def deliveries (ticker : Ticker) (now : Nat) : List Nat → List Nat
  | [] => []
  | pause :: rest =>
      let (time, ticker) := ticker.tick now
      time :: deliveries ticker (time + pause) rest

end Ticker

end BuildScheduler
