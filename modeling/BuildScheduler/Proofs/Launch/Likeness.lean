import Mathlib.Data.List.Forall2
import Mathlib.Data.Option.Basic
import BuildScheduler.Proofs.Launch.Exits

/-!
# Launches that are alike

Two launches are compared call by call. What counts as alike is a parameter: for identifiers, for
pods and for states. If collaborators answer alike calls alike, then events that ask for the same
build are launched with alike calls, to alike results. The identifier and the stamp that an event
brings along from an earlier deferral do not matter.
-/

namespace BuildScheduler

/-! ## Events for the same build -/

/-- Two events ask for a build of one ref of one project. -/
structure BuildEvent.Agrees (a b : BuildEvent) : Prop where
  team : a.team = b.team
  project : a.project = b.project
  ref : a.ref = b.ref

namespace BuildEvent.Agrees

variable {a b : BuildEvent} (h : a.Agrees b)
include h

theorem projectKey_eq : a.projectKey = b.projectKey := by
  rw [projectKey, h.team, h.project, projectKey]

theorem lockName_eq : a.lockName = b.lockName := by
  rw [lockName, h.team, h.project, h.ref, lockName]

theorem lockRecord_eq (now : Instant) (ttl : Span) :
    a.lockRecord now ttl = b.lockRecord now ttl := by
  rw [lockRecord, h.lockName_eq, lockRecord]

theorem labels_eq : a.labels = b.labels := by
  rw [labels, h.team, h.project, h.ref, h.lockName_eq, labels]

end BuildEvent.Agrees

/-! ## Likeness -/

structure Likeness (σ : Type) where
  ids : BuildId → BuildId → Prop
  pods : PodSpec → PodSpec → Prop
  states : σ → σ → Prop

namespace Likeness

variable (like : Likeness σ)

/-- Events for the same build with alike identifiers; their stamps may differ. -/
structure Events (a b : BuildEvent) : Prop where
  agrees : a.Agrees b
  ids : Option.Rel like.ids a.id b.id

inductive Calls : Call → Call → Prop where
  | put (record : LockRecord) (now : Instant) (answer : Result Bool) :
      Calls (.put record now answer) (.put record now answer)
  | delete (name : String) (answer : Result Unit) :
      Calls (.delete name answer) (.delete name answer)
  | defer {a b : BuildEvent} (h : like.Events a b) (answer : Result Unit) :
      Calls (.defer a answer) (.defer b answer)
  | create {p q : PodSpec} (h : like.pods p q) (answer : Result Unit) :
      Calls (.create p answer) (.create q answer)

inductive Results : Result LaunchOutcome → Result LaunchOutcome → Prop where
  | error (error : Error) : Results (.error error) (.error error)
  | queueClosed : Results (.ok .queueClosed) (.ok .queueClosed)
  | deferred (name : String) : Results (.ok (.deferred name)) (.ok (.deferred name))
  | launched {i j : BuildId} (h : like.ids i j) : Results (.ok (.launched i)) (.ok (.launched j))
  | failed {i j : BuildId} (h : like.ids i j) (cause : Error) :
      Results (.ok (.failed i cause)) (.ok (.failed j cause))

inductive Launches : Launch → Launch → Prop where
  | requested {a b : BuildEvent} (h : a.Agrees b) : Launches (.requested a) (.requested b)
  | acquiring {a b : BuildEvent} {i j : BuildId} (h : like.Events a b) (hi : like.ids i j)
      (project : Project) : Launches (.acquiring a i project) (.acquiring b j project)
  | deferring {a b : BuildEvent} {i j : BuildId} (h : like.Events a b) (hi : like.ids i j) :
      Launches (.deferring a i) (.deferring b j)
  | creating {a b : BuildEvent} {i j : BuildId} (h : like.Events a b) (hi : like.ids i j)
      (project : Project) : Launches (.creating a i project) (.creating b j project)
  | releasing {a b : BuildEvent} {i j : BuildId} (h : like.Events a b) (hi : like.ids i j)
      (cause : Error) : Launches (.releasing a i cause) (.releasing b j cause)
  | finished {r s : Result LaunchOutcome} (h : like.Results r s) :
      Launches (.finished r) (.finished s)
  | panicked : Launches .panicked .panicked

/-- Launches over with alike results, or both without one. -/
abbrev Endings : Option (Result LaunchOutcome) → Option (Result LaunchOutcome) → Prop :=
  Option.Rel like.Results

section Over

variable {like} {l m : Launch} (h : like.Launches l m)
include h

theorem Launches.ending?_some {ending : Option (Result LaunchOutcome)}
    (he : l.ending? = some ending) :
    ∃ other, m.ending? = some other ∧ like.Endings ending other := by
  cases h with
  | finished h =>
      cases he
      exact ⟨_, rfl, .some h⟩
  | panicked =>
      cases he
      exact ⟨_, rfl, .none⟩
  | _ => cases he

theorem Launches.ending?_none (he : l.ending? = none) : m.ending? = none := by
  cases h with
  | finished h => cases he
  | panicked => cases he
  | _ => rfl

end Over

structure Answers (x y : α × σ) : Prop where
  answer : x.1 = y.1
  states : like.states x.2 y.2

structure Respects (parts : Collaborators σ) : Prop where
  isOpen : ∀ {s t}, like.states s t → parts.isOpen s = parts.isOpen t
  project? : ∀ {s t}, like.states s t → ∀ key, parts.project? key s = parts.project? key t
  mint : ∀ {s t}, like.states s t →
    like.ids (parts.mint s).1 (parts.mint t).1 ∧ like.states (parts.mint s).2 (parts.mint t).2
  assemble : ∀ {s t a b i j}, like.states s t → like.Events a b → like.ids i j → ∀ project,
    like.pods (parts.assemble a i project s) (parts.assemble b j project t)
  now : ∀ {s t}, like.states s t → parts.now s = parts.now t
  ttl : ∀ {s t}, like.states s t → parts.ttl s = parts.ttl t
  put : ∀ {s t}, like.states s t → ∀ record now,
    like.Answers (parts.put record now s) (parts.put record now t)
  delete : ∀ {s t}, like.states s t → ∀ name,
    like.Answers (parts.delete name s) (parts.delete name t)
  defer : ∀ {s t a b}, like.states s t → like.Events a b →
    like.Answers (parts.defer a s) (parts.defer b t)
  create : ∀ {s t p q}, like.states s t → like.pods p q →
    like.Answers (parts.create p s) (parts.create q t)

/-! ## One step -/

section Steps

variable {like} {parts : Collaborators σ} (hr : like.Respects parts) {a b : BuildEvent}
  {i j : BuildId} {s t : σ} (hs : like.states s t)

include hr hs

theorem record_eq (h : a.Agrees b) : parts.record a s = parts.record b t := by
  rw [Collaborators.record, h.lockRecord_eq, hr.now hs, hr.ttl hs, Collaborators.record]

theorem putRecord_alike (h : a.Agrees b) :
    like.Answers (parts.putRecord a s) (parts.putRecord b t) := by
  rw [Collaborators.putRecord, record_eq hr hs h, hr.now hs]
  exact hr.put hs _ _

theorem fits_iff : parts.Fits s ↔ parts.Fits t := by
  rw [Collaborators.Fits, hr.now hs, hr.ttl hs, Collaborators.Fits]

/-- The gate, the catalog and the pattern say the same of events for one build. -/
theorem accept_alike (h : a.Agrees b) :
    like.Launches (Launch.accept parts.site a s).1 (Launch.accept parts.site b t).1 ∧
      like.states (Launch.accept parts.site a s).2 (Launch.accept parts.site b t).2 := by
  have ho : parts.site.isOpen s = parts.site.isOpen t := hr.isOpen hs
  have hp : parts.site.project? a.projectKey s = parts.site.project? b.projectKey t := by
    rw [h.projectKey_eq]
    exact hr.project? hs b.projectKey
  unfold Launch.accept
  rw [ho, hp]
  cases parts.site.isOpen t with
  | false => exact ⟨.finished .queueClosed, hs⟩
  | true =>
      cases parts.site.project? b.projectKey t with
      | none =>
          rw [h.projectKey_eq]
          exact ⟨.finished (.error _), hs⟩
      | some project =>
          have hm : project.descriptor.isManaged a.ref = project.descriptor.isManaged b.ref := by
            rw [h.ref]
          simp only [hm]
          cases project.descriptor.isManaged b.ref with
          | false =>
              rw [h.projectKey_eq, h.ref]
              exact ⟨.finished (.error _), hs⟩
          | true =>
              obtain ⟨hids, hminted⟩ := hr.mint hs
              have hevents : like.Events { a with id := some (parts.mint s).1 }
                  { b with id := some (parts.mint t).1 } :=
                ⟨⟨h.team, h.project, h.ref⟩, .some hids⟩
              exact ⟨.acquiring hevents hids project, hminted⟩

/-- One step keeps launches and states alike, and makes alike calls. -/
theorem step_alike {l m : Launch} (hl : like.Launches l m) :
    like.Launches (l.step parts.site s).1 (m.step parts.site t).1 ∧
      like.states (l.step parts.site s).2 (m.step parts.site t).2 ∧
        List.Forall₂ like.Calls (l.calls parts s) (m.calls parts t) := by
  cases hl with
  | requested h =>
      obtain ⟨hnext, hafter⟩ := accept_alike hr hs h
      exact ⟨hnext, hafter, .nil⟩
  | @acquiring a b i j h hi project =>
      obtain ⟨ha, hafter⟩ := putRecord_alike hr hs h.agrees
      have hrecord := record_eq hr hs h.agrees
      have hfits := fits_iff hr hs
      simp only [Launch.step, Launch.calls, Collaborators.site]
      by_cases hf : parts.Fits t
      · have hput : like.Calls (.put (parts.record a s) (parts.now s) (parts.putRecord a s).1)
            (.put (parts.record b t) (parts.now t) (parts.putRecord b t).1) := by
          rw [ha, hrecord, hr.now hs]
          exact .put _ _ _
        rw [Collaborators.acquire_of_fits parts a (hfits.2 hf),
          Collaborators.acquire_of_fits parts b hf, if_pos hf, if_pos (hfits.2 hf), hrecord, ha]
        rw [hrecord, ha] at hput
        cases (parts.record b t).taken (parts.putRecord b t).1 with
        | ok record => exact ⟨.creating h hi project, hafter, .cons hput .nil⟩
        | error error => exact ⟨.deferring h hi, hafter, .cons hput .nil⟩
      · have hno := mt hfits.1 hf
        rw [Collaborators.acquire_of_not_fits parts a hno,
          Collaborators.acquire_of_not_fits parts b hf, if_neg hf, if_neg hno]
        exact ⟨.panicked, hs, .nil⟩
  | @deferring a b i j h hi =>
      obtain ⟨ha, hafter⟩ := hr.defer hs h
      simp only [Launch.step, Launch.calls, Collaborators.site]
      rcases hx : parts.defer a s with ⟨answer, after⟩
      rcases hy : parts.defer b t with ⟨answer', after'⟩
      rw [hx, hy] at ha hafter
      cases ha
      cases answer with
      | ok value =>
          rw [h.agrees.lockName_eq]
          exact ⟨.finished (.deferred _), hafter, .cons (.defer h _) .nil⟩
      | error error => exact ⟨.finished (.failed hi error), hafter, .cons (.defer h _) .nil⟩
  | @creating a b i j h hi project =>
      have hpods := hr.assemble hs h hi project
      obtain ⟨ha, hafter⟩ := hr.create hs hpods
      simp only [Launch.step, Launch.calls, Collaborators.site]
      rcases hx : parts.create (parts.assemble a i project s) s with ⟨answer, after⟩
      rcases hy : parts.create (parts.assemble b j project t) t with ⟨answer', after'⟩
      rw [hx, hy] at ha hafter
      cases ha
      cases answer with
      | ok value => exact ⟨.finished (.launched hi), hafter, .cons (.create hpods _) .nil⟩
      | error error => exact ⟨.releasing h hi _, hafter, .cons (.create hpods _) .nil⟩
  | @releasing a b i j h hi cause =>
      obtain ⟨ha, hafter⟩ := hr.delete hs b.lockName
      simp only [Launch.step, Launch.calls, Collaborators.site, h.agrees.lockName_eq, ha]
      exact ⟨.finished (.failed hi cause), hafter, .cons (.delete _ _) .nil⟩
  | finished h => exact ⟨.finished h, hs, .nil⟩
  | panicked => exact ⟨.panicked, hs, .nil⟩

end Steps

/-! ## Whole launches -/

/-- What a note takes of calls is the same of alike ones. -/
theorem map_eq_of_calls {like : Likeness σ} {note : Call → ε}
    (hn : ∀ {c d}, like.Calls c d → note c = note d) {calls other : List Call}
    (h : List.Forall₂ like.Calls calls other) : calls.map note = other.map note := by
  induction h with
  | nil => rfl
  | cons hc _ ih => rw [List.map_cons, List.map_cons, hn hc, ih]

variable {like} {parts : Collaborators σ} (hr : like.Respects parts)
include hr

/-- A recorded run keeps results, states and records alike. -/
theorem run_alike {l m : Launch} (hl : like.Launches l m) {s t : σ} (hs : like.states s t)
    {log log' : List Call} (hlog : List.Forall₂ like.Calls log log') :
    let site := (parts.recorded fun _ call => call).site
    like.Endings (l.run site (s, log)).1 (m.run site (t, log')).1 ∧
      like.states (l.run site (s, log)).2.1 (m.run site (t, log')).2.1 ∧
        List.Forall₂ like.Calls (l.run site (s, log)).2.2 (m.run site (t, log')).2.2 := by
  intro site
  induction h : l.remaining using Nat.strongRecOn generalizing l m s t log log' with
  | _ left ih =>
      cases hover : l.ending? with
      | some ending =>
          obtain ⟨other, hother, hendings⟩ := hl.ending?_some hover
          rw [Launch.run_of_ending hover, Launch.run_of_ending hother]
          exact ⟨hendings, hs, hlog⟩
      | none =>
          have hother := hl.ending?_none hover
          have hdrop := Launch.remaining_step parts.site l s
          have hpos := Launch.remaining_pos hover
          obtain ⟨hnext, hafter, hcalls⟩ := step_alike hr hs hl
          rw [Launch.run_step hover, Launch.run_step hother, parts.step_recorded,
            parts.step_recorded, List.map_id', List.map_id']
          exact ih _ (by omega) hnext hafter (List.rel_append hlog hcalls) rfl

/-- Launches of events for one build, from alike states. -/
theorem launch_alike {a b : BuildEvent} (h : a.Agrees b) {s t : σ} (hs : like.states s t) :
    like.Endings (parts.site.launch a s).1 (parts.site.launch b t).1 ∧
      like.states (parts.site.launch a s).2 (parts.site.launch b t).2 ∧
        List.Forall₂ like.Calls (parts.transcript a s).2 (parts.transcript b t).2 := by
  obtain ⟨hresults, hstates, hcalls⟩ := run_alike hr (.requested h) hs (List.Forall₂.nil)
  obtain ⟨hra, hsa⟩ := parts.run_recorded (fun _ call => call) (.requested a) s []
  obtain ⟨hrb, hsb⟩ := parts.run_recorded (fun _ call => call) (.requested b) t []
  rw [hra, hrb] at hresults
  rw [hsa, hsb] at hstates
  exact ⟨hresults, hstates, hcalls⟩

end Likeness

end BuildScheduler
