import Mathlib.Data.List.Chain
import BuildScheduler.Proofs.Resubmission.Launches
import BuildScheduler.Proofs.Resubmission.Ticks

/-!
# The loop that resubmits

The loop waits for a tick, polls the queue, launches what it polled one event after another, and
asks for the next tick when the last launch is done. It looks out for a shutdown only while it waits.
A launch that panics takes the loop with it. Between two of its steps anything may happen to the
world, and take any time. `Turn` says once what a step does, and `Regular` what the passes of every
run have in common.
-/

namespace BuildScheduler

inductive LoopDeed (κ : Type) where
  | ticked
  | polled (events : List BuildEvent)
  | launched (launch : LaunchAt κ)
  | finished
  | stopped

namespace LoopDeed

def inPass : LoopDeed κ → Bool
  | .ticked => false
  | .stopped => false
  | _ => true

def polled? : LoopDeed κ → Option (List BuildEvent)
  | .polled events => some events
  | _ => none

def launch? : LoopDeed κ → Option (LaunchAt κ)
  | .launched launch => some launch
  | _ => none

end LoopDeed

abbrev LoopLog (κ : Type) := List (Nat × LoopDeed κ)

/-- A pass as a log tells of it: its tick, and what was done from there on. -/
structure ToldPass (κ : Type) where
  tick : Nat
  deeds : LoopLog κ

namespace LoopLog

def polls (log : LoopLog κ) : List (List BuildEvent) := log.filterMap fun deed => deed.2.polled?

def launches (log : LoopLog κ) : List (LaunchAt κ) := log.filterMap fun deed => deed.2.launch?

def finish? : LoopLog κ → Option Nat
  | [] => none
  | (time, .finished) :: _ => some time
  | _ :: rest => finish? rest

def opening (log : LoopLog κ) : LoopLog κ := log.takeWhile fun deed => deed.2.inPass

/-- The passes that begin in a log. -/
def passes : LoopLog κ → List (ToldPass κ)
  | [] => []
  | (time, .ticked) :: rest => ⟨time, opening rest⟩ :: passes rest
  | _ :: rest => passes rest

end LoopLog

namespace ToldPass

variable (pass : ToldPass κ)

def finish? : Option Nat := pass.deeds.finish?

/-- How long the pass took; nothing, when it is not over. -/
def duration : Nat := pass.finish?.elim 0 (· - pass.tick)

def log : LoopLog κ := (pass.tick, .ticked) :: pass.deeds

end ToldPass

/-! ## The loop -/

/-- Where the loop is: it has asked for a tick, has got one, or has events to launch. -/
inductive LoopPhase where
  | waiting (asked : Nat)
  | ticked
  | launching (rest : List BuildEvent)
  | stopped
  | panicked
deriving DecidableEq

structure ResubmissionLoop (κ : Type) where
  phase : LoopPhase
  ticker : Ticker
  world : World κ

namespace ResubmissionLoop

def start (period : Nat) (world : World κ) : ResubmissionLoop κ where
  phase := .waiting world.clock
  ticker := Ticker.start period world.clock
  world

/-- What the loop does next. A tick is delivered only before the shutdown. -/
def step (cluster : Cluster κ) (stop : Nat) (loop : ResubmissionLoop κ) :
    LoopLog κ × ResubmissionLoop κ :=
  let now := loop.world.clock
  match loop.phase with
  | .waiting asked =>
      let (time, ticker) := loop.ticker.tick asked
      if time < stop then
        ([(time, .ticked)], ⟨.ticked, ticker, { loop.world with clock := time }⟩)
      else ([(max asked stop, .stopped)], { loop with phase := .stopped })
  | .ticked =>
      ([(now, .polled loop.world.polled)],
        ⟨.launching loop.world.polled, loop.ticker, loop.world.pollDeferred.2⟩)
  | .launching [] => ([(now, .finished)], { loop with phase := .waiting now })
  | .launching (event :: rest) =>
      let launch : LaunchAt κ := ⟨event, loop.world⟩
      let phase := match launch.result cluster with
        | none => .panicked
        | some _ => .launching rest
      ([(now, .launched launch)], ⟨phase, loop.ticker, launch.after cluster⟩)
  | .stopped => ([], loop)
  | .panicked => ([], loop)

inductive Turn (cluster : Cluster κ) (stop : Nat) :
    ResubmissionLoop κ → LoopLog κ → ResubmissionLoop κ → Prop where
  | delivered {asked ticker world} (ht : (ticker.tick asked).1 < stop) :
      Turn cluster stop ⟨.waiting asked, ticker, world⟩ [((ticker.tick asked).1, .ticked)]
        ⟨.ticked, (ticker.tick asked).2, { world with clock := (ticker.tick asked).1 }⟩
  | cut {asked ticker world} (ht : ¬ (ticker.tick asked).1 < stop) :
      Turn cluster stop ⟨.waiting asked, ticker, world⟩ [(max asked stop, .stopped)]
        ⟨.stopped, ticker, world⟩
  | polled {ticker world} :
      Turn cluster stop ⟨.ticked, ticker, world⟩ [(world.clock, .polled world.polled)]
        ⟨.launching world.polled, ticker, world.pollDeferred.2⟩
  | launched {event rest ticker world}
      (hr : (LaunchAt.result cluster ⟨event, world⟩).isSome = true) :
      Turn cluster stop ⟨.launching (event :: rest), ticker, world⟩
        [(world.clock, .launched ⟨event, world⟩)]
        ⟨.launching rest, ticker, LaunchAt.after cluster ⟨event, world⟩⟩
  | panicked {event rest ticker world} (hr : LaunchAt.result cluster ⟨event, world⟩ = none) :
      Turn cluster stop ⟨.launching (event :: rest), ticker, world⟩
        [(world.clock, .launched ⟨event, world⟩)]
        ⟨.panicked, ticker, LaunchAt.after cluster ⟨event, world⟩⟩
  | finished {ticker world} :
      Turn cluster stop ⟨.launching [], ticker, world⟩ [(world.clock, .finished)]
        ⟨.waiting world.clock, ticker, world⟩
  | stays {ticker world} : Turn cluster stop ⟨.stopped, ticker, world⟩ [] ⟨.stopped, ticker, world⟩
  | gone {ticker world} :
      Turn cluster stop ⟨.panicked, ticker, world⟩ [] ⟨.panicked, ticker, world⟩

section Steps

variable (cluster : Cluster κ) (world : World κ) {stop asked : Nat} {ticker : Ticker}
  {event : BuildEvent}

theorem step_delivered (ht : (ticker.tick asked).1 < stop) :
    step cluster stop ⟨.waiting asked, ticker, world⟩ =
      ([((ticker.tick asked).1, .ticked)],
        ⟨.ticked, (ticker.tick asked).2, { world with clock := (ticker.tick asked).1 }⟩) := by
  simp only [step, if_pos ht]

theorem step_cut (ht : ¬ (ticker.tick asked).1 < stop) :
    step cluster stop ⟨.waiting asked, ticker, world⟩ =
      ([(max asked stop, .stopped)], ⟨.stopped, ticker, world⟩) := by
  simp only [step, if_neg ht]

theorem step_launched (hr : (LaunchAt.result cluster ⟨event, world⟩).isSome = true)
    (rest : List BuildEvent) :
    step cluster stop ⟨.launching (event :: rest), ticker, world⟩ =
      ([(world.clock, .launched ⟨event, world⟩)],
        ⟨.launching rest, ticker, LaunchAt.after cluster ⟨event, world⟩⟩) := by
  obtain ⟨result, hresult⟩ := Option.isSome_iff_exists.1 hr
  simp only [step, hresult]

theorem step_panicked (hr : LaunchAt.result cluster ⟨event, world⟩ = none)
    (rest : List BuildEvent) :
    step cluster stop ⟨.launching (event :: rest), ticker, world⟩ =
      ([(world.clock, .launched ⟨event, world⟩)],
        ⟨.panicked, ticker, LaunchAt.after cluster ⟨event, world⟩⟩) := by
  simp only [step, hr]

end Steps

theorem turn_step (cluster : Cluster κ) (stop : Nat) (loop : ResubmissionLoop κ) :
    Turn cluster stop loop (loop.step cluster stop).1 (loop.step cluster stop).2 := by
  rcases loop with ⟨phase, ticker, world⟩
  cases phase with
  | waiting asked =>
      by_cases ht : (ticker.tick asked).1 < stop
      · rw [step_delivered cluster world ht]
        exact .delivered ht
      · rw [step_cut cluster world ht]
        exact .cut ht
  | ticked => exact .polled
  | launching rest =>
      cases rest with
      | nil => exact .finished
      | cons event rest =>
          cases hr : LaunchAt.result cluster ⟨event, world⟩ with
          | none =>
              rw [step_panicked cluster world hr]
              exact .panicked hr
          | some result =>
              have hs := Option.isSome_of_eq_some hr
              rw [step_launched cluster world hs]
              exact .launched hs
  | stopped => exact .stays
  | panicked => exact .gone

/-- When a loop that waits goes on: at its tick, or at a shutdown that comes first. -/
def wakes (stop asked : Nat) (ticker : Ticker) : Nat :=
  if (ticker.tick asked).1 < stop then (ticker.tick asked).1 else max asked stop

/-- What may become of the world between two steps: anything, but the clock does not go back, and a
loop that waits goes on in time. -/
structure Permits (stop : Nat) (loop : ResubmissionLoop κ) (world : World κ) : Prop where
  later : loop.world.clock ≤ world.clock
  inTime : ∀ asked, loop.phase = .waiting asked → world.clock ≤ wakes stop asked loop.ticker

/-- The loop does the deeds of a log and gets from one state to another, while the world goes on. -/
inductive Run (cluster : Cluster κ) (stop : Nat) :
    ResubmissionLoop κ → LoopLog κ → ResubmissionLoop κ → Prop where
  | here (loop : ResubmissionLoop κ) : Run cluster stop loop [] loop
  | step {loop last : ResubmissionLoop κ} {log : LoopLog κ}
      (run : Run cluster stop (loop.step cluster stop).2 log last) :
      Run cluster stop loop ((loop.step cluster stop).1 ++ log) last
  | meanwhile {loop last : ResubmissionLoop κ} {log : LoopLog κ} {world : World κ}
      (permits : loop.Permits stop world)
      (run : Run cluster stop { loop with world } log last) : Run cluster stop loop log last

end ResubmissionLoop

/-! ## What is told of a pass -/

namespace LoopLog

/-- Some events are launched in order, and the pass is over only when all of them were. -/
structure Handles (events : List BuildEvent) (deeds : LoopLog κ) : Prop where
  inOrder : deeds.launches.map LaunchAt.event <+: events
  all : ∀ time, deeds.finish? = some time → deeds.launches.map LaunchAt.event = events

inductive Progress (deeds : LoopLog κ) : Prop where
  | begun (hp : deeds.polls = []) (hl : deeds.launches = []) (hf : deeds.finish? = none)
  | polled (events : List BuildEvent) (hp : deeds.polls = [events]) (h : deeds.Handles events)

structure Regular (stop : Nat) (ticker : Ticker) (asked : Nat) (stopped : Prop)
    (passes : List (ToldPass κ)) : Prop where
  /-- The pauses between the ticks are as long as the passes. -/
  ticks : passes.map ToldPass.tick = ticker.deliveries asked (passes.map ToldPass.duration)
  beforeStop : ∀ pass ∈ passes, pass.tick < stop
  forward : ∀ pass ∈ passes, ∀ finish, pass.finish? = some finish → pass.tick ≤ finish
  /-- A pass is over when the next one begins. -/
  apart : passes.IsChain fun pass next => ∃ finish, pass.finish? = some finish ∧ finish ≤ next.tick
  progress : ∀ pass ∈ passes, pass.deeds.Progress
  ended : stopped → ∀ pass ∈ passes, pass.finish?.isSome = true

/-- How a log goes on that begins in a pass, at a time. -/
inductive GoesOn (stop : Nat) (ticker : Ticker) (now : Nat) (stopped : Prop) (log : LoopLog κ) :
    Prop where
  | underWay (hf : log.opening.finish? = none) (hp : log.passes = []) (hs : ¬ stopped)
  | ended (finish : Nat) (hf : log.opening.finish? = some finish) (hle : now ≤ finish)
      (hr : Regular stop ticker finish stopped log.passes)

section Logs

variable {stop : Nat} {ticker : Ticker} {asked now : Nat} {stopped : Prop} {log : LoopLog κ}

theorem Regular.nil : Regular stop ticker asked stopped ([] : List (ToldPass κ)) :=
  ⟨rfl, List.forall_mem_nil _, List.forall_mem_nil _, .nil, List.forall_mem_nil _,
    fun _ => List.forall_mem_nil _⟩

/-- The first tick does not come before it is asked for. -/
theorem Regular.asked_le {first : ToldPass κ} {rest : List (ToldPass κ)}
    (h : Regular stop ticker asked stopped (first :: rest)) : asked ≤ first.tick := by
  have ht := h.ticks
  rw [List.map_cons, List.map_cons, Ticker.deliveries_cons, List.cons.injEq,
    Ticker.fst_tick] at ht
  rw [ht.1]
  exact Nat.le_max_left _ _

/-- The first pass begins a period after the start. -/
theorem Regular.first {period : Nat} {passes : List (ToldPass κ)}
    (h : Regular stop (Ticker.start period now) now stopped passes) :
    ∀ first ∈ passes.head?, first.tick = now + period := by
  intro first hfirst
  refine Ticker.head?_deliveries now (passes.map ToldPass.duration) period _ ?_
  rw [← h.ticks, List.head?_map, Option.mem_def.1 hfirst]
  rfl

/-- Each tick follows the one before it after the pass between them. -/
theorem Regular.follow {passes : List (ToldPass κ)}
    (h : Regular stop ticker asked stopped passes) :
    passes.IsChain fun pass next =>
      Ticker.Follows ticker.period pass.tick pass.duration next.tick := by
  have hf := ticker.deliveries_follow asked (passes.map ToldPass.duration)
  rwa [← h.ticks, List.zip_map', List.isChain_map] at hf

/-- A tick begins a pass, and the passes after it are regular from its end on. -/
theorem Regular.cons (hstop : (ticker.tick asked).1 < stop) (hp : log.opening.Progress)
    (h : GoesOn stop (ticker.tick asked).2 (ticker.tick asked).1 stopped log) :
    Regular stop ticker asked stopped (⟨(ticker.tick asked).1, log.opening⟩ :: log.passes) := by
  generalize htime : (ticker.tick asked).1 = time at hstop h
  cases h with
  | underWay hf hn hs =>
      rw [hn]
      refine ⟨?_, ?_, ?_, .singleton _, ?_, fun h => absurd h hs⟩
      · rw [List.map_singleton, List.map_singleton, Ticker.deliveries_cons, htime]
        rfl
      · exact List.forall_mem_singleton.2 hstop
      · refine List.forall_mem_singleton.2 fun finish hfinish => ?_
        cases hf.symm.trans hfinish
      · exact List.forall_mem_singleton.2 hp
  | ended finish hf hle hr =>
      have hduration : (ToldPass.mk time log.opening).duration = finish - time := by
        rw [ToldPass.duration, ToldPass.finish?, hf]
        rfl
      refine ⟨?_, ?_, ?_, ?_, ?_, ?_⟩
      · rw [List.map_cons, List.map_cons, hduration, Ticker.deliveries_cons, htime,
          Nat.add_sub_cancel' hle, hr.ticks]
      · exact List.forall_mem_cons.2 ⟨hstop, hr.beforeStop⟩
      · refine List.forall_mem_cons.2 ⟨fun other hother => ?_, hr.forward⟩
        cases hf.symm.trans hother
        exact hle
      · generalize log.passes = rest at hr
        cases rest with
        | nil => exact .singleton _
        | cons next rest => exact .cons_cons ⟨finish, hf, hr.asked_le⟩ hr.apart
      · exact List.forall_mem_cons.2 ⟨hp, hr.progress⟩
      · refine fun h => List.forall_mem_cons.2 ⟨?_, hr.ended h⟩
        rw [ToldPass.finish?, hf]
        rfl

theorem opening_cons {time : Nat} {deed : LoopDeed κ} (hd : deed.inPass = true) :
    opening ((time, deed) :: log) = (time, deed) :: opening log := List.takeWhile_cons_of_pos hd

theorem passes_cons {time : Nat} {deed : LoopDeed κ} (hd : deed.inPass = true) :
    passes ((time, deed) :: log) = passes log := by
  cases deed with
  | ticked => cases hd
  | _ => rfl

section Deeds

variable {deeds : LoopLog κ}

end Deeds

theorem GoesOn.earlier {earlier : Nat} (he : earlier ≤ now)
    (h : GoesOn stop ticker now stopped log) : GoesOn stop ticker earlier stopped log := by
  cases h with
  | underWay hf hp hs => exact .underWay hf hp hs
  | ended finish hf hle hr => exact .ended finish hf (Nat.le_trans he hle) hr

/-- A deed of a pass that does not end it lets the log go on as before. -/
theorem GoesOn.cons {time : Nat} {deed : LoopDeed κ} (hd : deed.inPass = true)
    (hn : ∀ rest, finish? ((time, deed) :: rest) = finish? rest)
    (h : GoesOn stop ticker now stopped log) :
    GoesOn stop ticker now stopped ((time, deed) :: log) := by
  cases h with
  | underWay hf hp hs =>
      refine .underWay ?_ ((passes_cons hd).trans hp) hs
      rw [opening_cons hd, hn, hf]
  | ended finish hf hle hr =>
      rw [← passes_cons hd] at hr
      refine .ended finish ?_ hle hr
      rw [opening_cons hd, hn, hf]

end Logs

end LoopLog

namespace World

theorem clock_pollDeferred (world : World κ) : world.pollDeferred.2.clock = world.clock := by
  obtain ⟨queue, h⟩ := world.pollDeferred_leaves
  rw [h]

end World

/-! ## What is told of a run -/

namespace ResubmissionLoop

section Runs

variable {cluster : Cluster κ} {stop : Nat} {loop last : ResubmissionLoop κ} {log : LoopLog κ}
  {stopped : Prop}

def Tells (stop : Nat) (stopped : Prop) (loop : ResubmissionLoop κ) (log : LoopLog κ) : Prop :=
  match loop.phase with
  | .waiting asked => log.opening = [] ∧ LoopLog.Regular stop loop.ticker asked stopped log.passes
  | .ticked =>
      log.opening.Progress ∧ log.GoesOn stop loop.ticker loop.world.clock stopped
  | .launching rest =>
      (log.opening.polls = [] ∧ log.opening.Handles rest) ∧
        log.GoesOn stop loop.ticker loop.world.clock stopped
  | .stopped => log = []
  | .panicked => log = [] ∧ ¬ stopped

theorem tells_here (loop : ResubmissionLoop κ) : loop.Tells stop (loop.phase = .stopped) [] := by
  rcases loop with ⟨phase, ticker, world⟩
  cases phase with
  | waiting asked => exact ⟨rfl, .nil⟩
  | ticked => exact ⟨.begun rfl rfl rfl, .underWay rfl rfl LoopPhase.noConfusion⟩
  | launching rest =>
      exact ⟨⟨rfl, List.nil_prefix, fun time h => nomatch h⟩,
        .underWay rfl rfl LoopPhase.noConfusion⟩
  | stopped => rfl
  | panicked => exact ⟨rfl, LoopPhase.noConfusion⟩

theorem tells_meanwhile {world : World κ} (permits : loop.Permits stop world)
    (h : Tells stop stopped { loop with world } log) : loop.Tells stop stopped log := by
  rcases loop with ⟨phase, ticker, before⟩
  have hle : before.clock ≤ world.clock := permits.later
  cases phase with
  | waiting asked => exact h
  | ticked => exact ⟨h.1, h.2.earlier hle⟩
  | launching rest => exact ⟨h.1, h.2.earlier hle⟩
  | stopped => exact h
  | panicked => exact h

theorem tells_turn {next : ResubmissionLoop κ} {deeds : LoopLog κ}
    (turn : Turn cluster stop loop deeds next) (h : next.Tells stop stopped log) :
    loop.Tells stop stopped (deeds ++ log) := by
  cases turn with
  | delivered ht => exact ⟨rfl, .cons ht h.1 h.2⟩
  | cut ht =>
      cases h
      exact ⟨rfl, .nil⟩
  | @polled ticker world =>
      obtain ⟨⟨hp, hh⟩, hg⟩ := h
      refine ⟨.polled world.polled ?_ ⟨hh.inOrder, hh.all⟩, (hg.earlier ?_).cons rfl fun _ => rfl⟩
      · exact congrArg (world.polled :: ·) hp
      · exact Nat.le_of_eq world.clock_pollDeferred.symm
  | @launched event rest ticker world hr =>
      obtain ⟨⟨hp, hh⟩, hg⟩ := h
      refine ⟨⟨hp, ?_, ?_⟩, (hg.earlier (world.clock_le_launch cluster event)).cons rfl ?_⟩
      · exact List.cons_prefix_cons.2 ⟨rfl, hh.inOrder⟩
      · exact fun time hf => congrArg (event :: ·) (hh.all time hf)
      · exact fun _ => rfl
  | @panicked event rest ticker world hr =>
      obtain ⟨rfl, hs⟩ := h
      refine ⟨⟨rfl, ?_, fun time hf => nomatch hf⟩, .underWay rfl rfl hs⟩
      exact List.cons_prefix_cons.2 ⟨rfl, List.nil_prefix⟩
  | @finished ticker world =>
      obtain ⟨ho, hr⟩ := h
      have hopening : LoopLog.opening ([(world.clock, .finished)] ++ log) =
          [(world.clock, .finished)] := congrArg (_ :: ·) ho
      refine ⟨?_, .ended world.clock ?_ (Nat.le_refl _) hr⟩
      · rw [hopening]
        exact ⟨rfl, List.nil_prefix, fun _ _ => rfl⟩
      · rw [hopening]
        rfl
  | stays => exact h
  | gone => exact h

/-- Every log is told of by where its loop was. -/
theorem Run.tells (run : Run cluster stop loop log last) :
    loop.Tells stop (last.phase = .stopped) log := by
  induction run with
  | here loop => exact tells_here loop
  | step run ih => exact tells_turn (turn_step _ _ _) ih
  | meanwhile permits run ih => exact tells_meanwhile permits ih

/-- A loop that has stopped does nothing any more. -/
theorem Run.eq_nil_of_stopped (run : Run cluster stop loop log last) (h : loop.phase = .stopped) :
    log = [] := by
  have ht := run.tells
  rwa [Tells, h] at ht

def Timely (stop : Nat) (loop : ResubmissionLoop κ) : Prop :=
  ∀ asked, loop.phase = .waiting asked → loop.world.clock ≤ wakes stop asked loop.ticker

theorem le_wakes (stop asked : Nat) (ticker : Ticker) : asked ≤ wakes stop asked ticker := by
  unfold wakes
  split
  · rw [Ticker.fst_tick]
    exact Nat.le_max_left _ _
  · exact Nat.le_max_left _ _

theorem Turn.pairwise {next : ResubmissionLoop κ} {deeds : LoopLog κ}
    {relation : Nat × LoopDeed κ → Nat × LoopDeed κ → Prop}
    (turn : Turn cluster stop loop deeds next) : deeds.Pairwise relation := by
  cases turn with
  | stays => exact .nil
  | gone => exact .nil
  | _ => exact List.pairwise_singleton _ _

theorem Turn.times {next : ResubmissionLoop κ} {deeds : LoopLog κ}
    (turn : Turn cluster stop loop deeds next) (h : loop.Timely stop) :
    next.Timely stop ∧ loop.world.clock ≤ next.world.clock ∧
      ∀ deed ∈ deeds, loop.world.clock ≤ deed.1 ∧
        (next.phase ≠ .stopped → deed.1 ≤ next.world.clock) := by
  cases turn with
  | @delivered asked ticker world ht =>
      have hle : world.clock ≤ (ticker.tick asked).1 := by
        have hw := h asked rfl
        rwa [wakes, if_pos ht] at hw
      exact ⟨nofun, hle, List.forall_mem_singleton.2 ⟨hle, fun _ => Nat.le_refl _⟩⟩
  | @cut asked ticker world ht =>
      have hle : world.clock ≤ max asked stop := by
        have hw := h asked rfl
        rwa [wakes, if_neg ht] at hw
      exact ⟨nofun, Nat.le_refl _, List.forall_mem_singleton.2 ⟨hle, fun hs => absurd rfl hs⟩⟩
  | @polled ticker world =>
      have hc := world.clock_pollDeferred
      exact ⟨nofun, Nat.le_of_eq hc.symm,
        List.forall_mem_singleton.2 ⟨Nat.le_refl _, fun _ => Nat.le_of_eq hc.symm⟩⟩
  | @launched event rest ticker world hr =>
      have hle := world.clock_le_launch cluster event
      exact ⟨nofun, hle, List.forall_mem_singleton.2 ⟨Nat.le_refl _, fun _ => hle⟩⟩
  | @panicked event rest ticker world hr =>
      have hle := world.clock_le_launch cluster event
      exact ⟨nofun, hle, List.forall_mem_singleton.2 ⟨Nat.le_refl _, fun _ => hle⟩⟩
  | @finished ticker world =>
      refine ⟨?_, Nat.le_refl _,
        List.forall_mem_singleton.2 ⟨Nat.le_refl _, fun _ => Nat.le_refl _⟩⟩
      intro asked ha
      cases ha
      exact le_wakes stop world.clock ticker
  | stays => exact ⟨h, Nat.le_refl _, List.forall_mem_nil _⟩
  | gone => exact ⟨h, Nat.le_refl _, List.forall_mem_nil _⟩

/-- A log is in the order of time. -/
theorem Run.inOrder (run : Run cluster stop loop log last) (h : loop.Timely stop) :
    (∀ deed ∈ log, loop.world.clock ≤ deed.1) ∧
      log.Pairwise fun deed later => deed.1 ≤ later.1 := by
  induction run with
  | here loop => exact ⟨List.forall_mem_nil _, .nil⟩
  | meanwhile permits run ih =>
      obtain ⟨hlog, hordered⟩ := ih permits.inTime
      exact ⟨fun deed hm => Nat.le_trans permits.later (hlog deed hm), hordered⟩
  | @step loop last log run ih =>
      have turn := turn_step cluster stop loop
      obtain ⟨htimely, hle, hdeeds⟩ := turn.times h
      obtain ⟨hlog, hordered⟩ := ih htimely
      refine ⟨?_, List.pairwise_append.2 ⟨turn.pairwise, hordered, ?_⟩⟩
      · refine List.forall_mem_append.2 ⟨fun deed hm => (hdeeds deed hm).1, fun deed hm => ?_⟩
        exact Nat.le_trans hle (hlog deed hm)
      · intro deed hd later hl
        have hgoes : (loop.step cluster stop).2.phase ≠ .stopped := fun hs =>
          List.ne_nil_of_mem hl (run.eq_nil_of_stopped hs)
        exact Nat.le_trans ((hdeeds deed hd).2 hgoes) (hlog later hl)

end Runs

end ResubmissionLoop

end BuildScheduler
