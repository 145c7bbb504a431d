import BuildScheduler.Proofs.Reaper.Deletions

/-!
# The loop of the reaper

The loop opens one watch after another and deals with what comes until the watch is over; then it
pauses. A deletion takes as long as the cluster takes to answer, and what comes next waits for the
answer. A shutdown ends the loop wherever it is: from its time on nothing more begins. `Turn` says
once what a step does.
-/

namespace BuildScheduler

/-- What the loop does at a time. A watch is lost when it cannot be opened, ends, or fails. -/
inductive ReaperDeed where
  | subscribed
  | asked (call : DeletionCall)
  | lost

abbrev ReaperLog := List (Nat × ReaperDeed)

inductive WatchPhase where
  | opening
  | watching (items : List WatchItem) (ends : Bool)

/-- The loop over a cluster in state `σ`. The time is that of the next opening, or the time at which
the loop began to wait. -/
structure ReaperLoop (σ : Type) where
  phase : WatchPhase
  sessions : List WatchSession
  time : Nat
  reaper : Reaper
  cluster : σ

/-- A bound on the steps that the loop takes for a session. -/
def WatchSession.weight : WatchSession → Nat
  | .failed _ => 1
  | .stream items _ => 2 * items.length + 2

namespace ReaperLoop

def start (time : Nat) (sessions : List WatchSession) (reaper : Reaper) (cluster : σ) :
    ReaperLoop σ where
  phase := .opening
  sessions
  time
  reaper
  cluster

/-- When the loop goes on; never, when its watch has fallen silent. -/
def due? (loop : ReaperLoop σ) : Option Nat :=
  match loop.phase with
  | .opening => some loop.time
  | .watching [] ends => if ends then some loop.time else none
  | .watching (item :: _) _ => some (loop.time + item.delay)

def next? (stop : Option Nat) (loop : ReaperLoop σ) : Option Nat :=
  loop.due?.filter fun due => stop.all (due < ·)

/-- The watch is over at a time: the next one is opened after the pause. -/
def lose (delay time : Nat) (loop : ReaperLoop σ) : ReaperLog × ReaperLoop σ :=
  ([(time, .lost)], { loop with phase := .opening, time := time + delay })

/-- A deletion against a clock, which the answer moves on. -/
def timed (delete : String → σ → Reply × σ) (name : String) (state : σ × Nat) :
    Result Unit × σ × Nat :=
  let (reply, cluster) := delete name state.1
  (reply.result, cluster, state.2 + reply.elapsed)

def step (delay : Nat) (delete : String → σ → Reply × σ) (due : Nat) (loop : ReaperLoop σ) :
    ReaperLog × ReaperLoop σ :=
  match loop.phase with
  | .opening =>
      match loop.sessions with
      | [] => ([(due, .subscribed)], { loop with phase := .watching [] false })
      | .failed _ :: sessions =>
          let (deeds, loop) := { loop with sessions }.lose delay due
          ((due, .subscribed) :: deeds, loop)
      | .stream items ends :: sessions =>
          ([(due, .subscribed)], { loop with phase := .watching items ends, sessions })
  | .watching [] _ => loop.lose delay due
  | .watching (item :: items) ends =>
      match item.content with
      | .ok pod =>
          let (sighting, reaper, cluster, time) :=
            loop.reaper.see (timed delete) pod (loop.cluster, due)
          (sighting.calls.map fun call => (due, .asked call),
            { loop with phase := .watching items ends, time, reaper, cluster })
      | .error _ => loop.lose delay due

def remaining (loop : ReaperLoop σ) : Nat :=
  loop.sessions.foldr (·.weight + ·) 0 +
    match loop.phase with
    | .opening => 1
    | .watching items ends => 2 * items.length + if ends then 2 else 0

/-! ## Turns -/

def answer (delete : String → σ → Reply × σ) (name : String) (cluster : σ) : Result Unit × σ :=
  let (reply, cluster) := delete name cluster
  (reply.result, cluster)

/-- What a sight asks for does not depend on the clock, which goes on only if an answer takes
time. -/
theorem see_timed (delete : String → σ → Reply × σ) (pod : PodObservation) (reaper : Reaper)
    (cluster : σ) (time : Nat) :
    ∃ later, time ≤ later ∧ ((∀ name state, (delete name state).1.elapsed = 0) → later = time) ∧
      reaper.see (timed delete) pod (cluster, time) =
        ((reaper.see (answer delete) pod cluster).1, (reaper.see (answer delete) pod cluster).2.1,
          (reaper.see (answer delete) pod cluster).2.2, later) := by
  cases hw : reaper.wants pod with
  | false =>
      refine ⟨time, Nat.le_refl _, fun _ => rfl, ?_⟩
      rw [Reaper.see, Reaper.see, Reaper.handle_of_not_wants hw, Reaper.handle_of_not_wants hw]
  | true =>
      refine ⟨time + (delete pod.name cluster).1.elapsed, Nat.le_add_right _ _, ?_, ?_⟩
      · intro h
        rw [h, Nat.add_zero]
      · rw [Reaper.see, Reaper.see, Reaper.handle_of_wants hw, Reaper.handle_of_wants hw,
          Reaper.noting, Reaper.noting, timed, answer]
        rcases delete pod.name cluster with ⟨⟨result, elapsed⟩, after⟩
        cases result with
        | ok value => rfl
        | error error => rfl

inductive Turn (delay : Nat) (delete : String → σ → Reply × σ) :
    ReaperLoop σ → Nat → ReaperLog → ReaperLoop σ → Prop
  /-- There are no more sessions: the watch stays silent. -/
  | silent {time reaper cluster} :
      Turn delay delete ⟨.opening, [], time, reaper, cluster⟩ time [(time, .subscribed)]
        ⟨.watching [] false, [], time, reaper, cluster⟩
  | refused {error sessions time reaper cluster} :
      Turn delay delete ⟨.opening, .failed error :: sessions, time, reaper, cluster⟩ time
        [(time, .subscribed), (time, .lost)] ⟨.opening, sessions, time + delay, reaper, cluster⟩
  | opened {items ends sessions time reaper cluster} :
      Turn delay delete ⟨.opening, .stream items ends :: sessions, time, reaper, cluster⟩ time
        [(time, .subscribed)] ⟨.watching items ends, sessions, time, reaper, cluster⟩
  | ended {sessions time reaper cluster} :
      Turn delay delete ⟨.watching [] true, sessions, time, reaper, cluster⟩ time [(time, .lost)]
        ⟨.opening, sessions, time + delay, reaper, cluster⟩
  | broken {item items ends sessions time reaper cluster error} (h : item.content = .error error) :
      Turn delay delete ⟨.watching (item :: items) ends, sessions, time, reaper, cluster⟩
        (time + item.delay) [(time + item.delay, .lost)]
        ⟨.opening, sessions, time + item.delay + delay, reaper, cluster⟩
  | seen {item items ends sessions time reaper cluster pod later} (h : item.content = .ok pod)
      (hl : time + item.delay ≤ later)
      (hi : (∀ name state, (delete name state).1.elapsed = 0) → later = time + item.delay) :
      Turn delay delete ⟨.watching (item :: items) ends, sessions, time, reaper, cluster⟩
        (time + item.delay)
        ((reaper.see (answer delete) pod cluster).1.calls.map fun call =>
          (time + item.delay, .asked call))
        ⟨.watching items ends, sessions, later, (reaper.see (answer delete) pod cluster).2.1,
          (reaper.see (answer delete) pod cluster).2.2⟩

theorem turn_step (delay : Nat) (delete : String → σ → Reply × σ) {due : Nat}
    {loop : ReaperLoop σ} (h : loop.due? = some due) :
    Turn delay delete loop due (loop.step delay delete due).1 (loop.step delay delete due).2 := by
  rcases loop with ⟨phase, sessions, time, reaper, cluster⟩
  cases phase with
  | opening =>
      cases h
      cases sessions with
      | nil => exact .silent
      | cons session sessions =>
          cases session with
          | failed error => exact .refused
          | stream items ends => exact .opened
  | watching items ends =>
      cases items with
      | nil =>
          cases ends with
          | false => cases h
          | true =>
              cases h
              exact .ended
      | cons item items =>
          cases h
          cases hc : item.content with
          | error error =>
              simp only [step, hc]
              exact .broken hc
          | ok pod =>
              obtain ⟨later, hl, hi, hs⟩ :=
                see_timed delete pod reaper cluster (time + item.delay)
              simp only [step, hc, hs]
              exact .seen hc hl hi

theorem remaining_lt {delay due : Nat} {delete : String → σ → Reply × σ}
    {loop next : ReaperLoop σ} {deeds : ReaperLog} (h : Turn delay delete loop due deeds next) :
    next.remaining < loop.remaining := by
  cases h with
  | silent => simp [remaining]
  | refused => simp [remaining, WatchSession.weight]
  | opened =>
      simp only [remaining, WatchSession.weight, List.foldr_cons]
      split <;> omega
  | ended => simp [remaining]
  | broken => simp only [remaining, List.length_cons]; omega
  | seen => simp only [remaining, List.length_cons]; omega

theorem due?_of_next? {stop : Option Nat} {loop : ReaperLoop σ} {due : Nat}
    (h : loop.next? stop = some due) : loop.due? = some due :=
  (Option.filter_eq_some_iff.1 h).1

/-! ## Runs -/

/-- Goes on until the shutdown, or without end when there is none. -/
def run (delay : Nat) (delete : String → σ → Reply × σ) (stop : Option Nat)
    (loop : ReaperLoop σ) : ReaperLog × ReaperLoop σ :=
  match _h : loop.next? stop with
  | none => ([], loop)
  | some due =>
      let next := loop.step delay delete due
      let rest := run delay delete stop next.2
      (next.1 ++ rest.1, rest.2)
termination_by loop.remaining
decreasing_by exact remaining_lt (turn_step delay delete (due?_of_next? _h))

section Runs

variable {delay due : Nat} {delete : String → σ → Reply × σ} {stop : Option Nat}
  {loop : ReaperLoop σ}

end Runs

end ReaperLoop

end BuildScheduler
