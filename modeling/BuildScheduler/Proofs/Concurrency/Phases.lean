import BuildScheduler.Proofs.Concurrency.Crew
import BuildScheduler.Proofs.Launch.Course

/-!
# Launches that meet no failure

The phases that an admitted launch passes while every call it makes is answered, and how many
members of a crew are in a phase. A member that takes a step adds to a tally only what the step
itself changes.
-/

namespace BuildScheduler

namespace Launch

/-! ## Phases -/

/-- The phases of an admitted launch whose calls are all answered. -/
inductive Smooth (trigger : BuildEvent) : Launch → Prop where
  | requested : Smooth trigger (.requested trigger)
  | acquiring (event : BuildEvent) (id : BuildId) (project : Project)
      (hn : event.lockName = trigger.lockName) : Smooth trigger (.acquiring event id project)
  | deferring (event : BuildEvent) (id : BuildId) (hn : event.lockName = trigger.lockName) :
      Smooth trigger (.deferring event id)
  | creating (event : BuildEvent) (id : BuildId) (project : Project)
      (hn : event.lockName = trigger.lockName) : Smooth trigger (.creating event id project)
  | deferred : Smooth trigger (.finished (.ok (.deferred trigger.lockName)))
  | launched (id : BuildId) : Smooth trigger (.finished (.ok (.launched id)))
  | panicked : Smooth trigger .panicked

def isLaunched : Launch → Bool
  | .finished (.ok (.launched _)) => true
  | _ => false

def isDeferred : Launch → Bool
  | .finished (.ok (.deferred _)) => true
  | _ => false

/-- A launch that has the lock, or had it and got its pod. -/
def wins : Launch → Bool
  | .creating .. => true
  | launch => launch.isLaunched

def yields : Launch → Bool
  | .deferring .. => true
  | launch => launch.isDeferred

/-- In a finished launch that met no failure winning means launched, and yielding deferred. -/
theorem Smooth.finished {trigger : BuildEvent} {launch : Launch} (hs : launch.Smooth trigger)
    (hf : launch.result?.isSome = true) :
    (launch.isLaunched = true ∧ launch.isDeferred = false ∧ launch.wins = true ∧
      launch.yields = false ∧ ∃ id, launch.result? = some (.ok (.launched id))) ∨
    (launch.isLaunched = false ∧ launch.isDeferred = true ∧ launch.wins = false ∧
      launch.yields = true ∧ launch.result? = some (.ok (.deferred trigger.lockName))) := by
  cases hs with
  | launched id => exact .inl ⟨rfl, rfl, rfl, rfl, id, rfl⟩
  | deferred => exact .inr ⟨rfl, rfl, rfl, rfl, rfl⟩
  | _ => cases hf

theorem answered_of_singleton {call : Call} (h : ∀ other ∈ [call], other.answered = true) :
    call.answered = true := h call (List.mem_singleton_self call)

section Moved

variable {launch next : Launch} {world after : World κ} {calls : List Call} {trigger : BuildEvent}

theorem Move.smooth (move : Move launch world next after calls) (hs : launch.Smooth trigger)
    (ha : ∀ call ∈ calls, call.answered = true) (hw : world.admits trigger = true) :
    next.Smooth trigger := by
  cases hs with
  | requested =>
      rw [World.admits, Bool.and_eq_true] at hw
      obtain ⟨hopen, hfound⟩ := hw
      cases move with
      | closed event world ho =>
          rw [hopen] at ho
          cases ho
      | unknown event world ho hp =>
          rw [hp] at hfound
          cases hfound
      | unmanaged event project world ho hp hm =>
          rw [hp, Option.any_some, hm] at hfound
          cases hfound
      | accepted event project world ho hp hm => exact .acquiring _ _ _ rfl
  | acquiring event id project hn =>
      cases move with
      | acquired => exact .creating event id project hn
      | refused => exact .deferring event id hn
      | unanswered => exact .deferring event id hn
      | panicked => exact .panicked
  | deferring event id hn =>
      cases move with
      | deferred =>
          rw [hn]
          exact .deferred
      | undeferred => exact absurd (answered_of_singleton ha) Bool.noConfusion
  | creating event id project hn =>
      cases move with
      | created => exact .launched id
      | uncreated =>
          exact absurd (answered_of_singleton ha) Bool.noConfusion
  | deferred =>
      cases move with
      | idle => exact .deferred
  | launched id =>
      cases move with
      | idle => exact .launched id
  | panicked =>
      cases move with
      | gone => exact .panicked

/-- The contest for the lock of a trigger: a move leaves the store and who wins as they were, or
wins a lock that nobody holds, or yields to one that is held. -/
theorem Move.contest (move : Move launch world next after calls) (hs : launch.Smooth trigger)
    (ha : ∀ call ∈ calls, call.answered = true) :
    (after.locks = world.locks ∧ next.wins = launch.wins ∧ next.yields = launch.yields) ∨
    (world.locks.isHeld trigger.lockName world.now = false ∧ launch.wins = false ∧
      next.wins = true ∧ ∃ record : LockRecord, record.name = trigger.lockName ∧
        after.locks = world.locks.write record ∧ ∃ call ∈ calls, call.written? = some record) ∨
    (world.locks.isHeld trigger.lockName world.now = true ∧ after.locks = world.locks ∧
      next.wins = launch.wins) := by
  cases hs with
  | requested =>
      cases move with
      | _ => exact .inl ⟨rfl, rfl, rfl⟩
  | acquiring event id project hn =>
      rw [← hn]
      cases move with
      | acquired event id project world outages hf hh =>
          exact .inr (.inl ⟨hh, rfl, rfl, event.lockRecord world.now world.ttl, rfl, rfl, _,
            List.mem_singleton_self _, rfl⟩)
      | refused event id project world outages hf hh => exact .inr (.inr ⟨hh, rfl, rfl⟩)
      | unanswered => exact absurd (answered_of_singleton ha) Bool.noConfusion
      | panicked => exact .inl ⟨rfl, rfl, rfl⟩
  | deferring event id hn =>
      cases move with
      | deferred => exact .inl ⟨rfl, rfl, rfl⟩
      | undeferred => exact absurd (answered_of_singleton ha) Bool.noConfusion
  | creating event id project hn =>
      cases move with
      | created => exact .inl ⟨rfl, rfl, rfl⟩
      | uncreated => exact absurd (answered_of_singleton ha) Bool.noConfusion
  | deferred =>
      cases move with
      | idle => exact .inl ⟨rfl, rfl, rfl⟩
  | launched id =>
      cases move with
      | idle => exact .inl ⟨rfl, rfl, rfl⟩
  | panicked =>
      cases move with
      | gone => exact .inl ⟨rfl, rfl, rfl⟩

/-- The queue changes only when a launch finishes as deferred. -/
theorem Move.queue_cases (move : Move launch world next after calls)
    (hs : launch.Smooth trigger) :
    (after.queue = world.queue ∧ next.isDeferred = launch.isDeferred) ∨
    (launch.isDeferred = false ∧ next.isDeferred = true ∧ ∃ event : BuildEvent,
      event.lockName = trigger.lockName ∧ after.queue = world.queue.defer event world.now) := by
  cases move with
  | deferred event id world outages =>
      cases hs with
      | deferring _ _ hn => exact .inr ⟨rfl, rfl, event, hn, rfl⟩
  | _ => exact .inl ⟨rfl, rfl⟩

/-- A pod is asked for only when a launch finishes as launched. -/
theorem Move.submit_cases (move : Move launch world next after calls)
    (hs : launch.Smooth trigger) (ha : ∀ call ∈ calls, call.answered = true) :
    ((∀ name, ∀ call ∈ calls, call.submits name = false) ∧
      next.isLaunched = launch.isLaunched) ∨
    (launch.isLaunched = false ∧ next.isLaunched = true ∧ ∃ spec : PodSpec,
      spec.lockName? = some trigger.lockName ∧ calls = [.create spec (.ok ())]) := by
  cases move with
  | created event id project world state elapsed =>
      cases hs with
      | creating _ _ _ hn =>
          have hp := PodTemplate.lockName?_buildPod world.template event id project
          rw [hn] at hp
          exact .inr ⟨rfl, rfl, _, hp, rfl⟩
  | uncreated => exact absurd (answered_of_singleton ha) Bool.noConfusion
  | _ => exact .inl ⟨by simp [Call.submits], rfl⟩

end Moved

end Launch

/-! ## Tallies -/

theorem countP_set_of_getElem? {α : Type} {l : List α} {i : Nat} {a b : α} (p : α → Bool)
    (h : l[i]? = some a) : (l.set i b).countP p + (p a).toNat = l.countP p + (p b).toNat := by
  obtain ⟨hi, ha⟩ := List.getElem?_eq_some_iff.1 h
  have hpos : p a = true → 0 < l.countP p :=
    fun hp => List.countP_pos_iff.2 ⟨a, List.mem_of_getElem? h, hp⟩
  rw [List.countP_set hi, ha]
  cases hp : p a with
  | false => cases p b <;> simp
  | true =>
      have := hpos hp
      cases p b <;> simp <;> omega

/-- If every element has just one of two properties, their counts add up. -/
theorem countP_add_of_xor {α : Type} {l : List α} {p q r : α → Bool}
    (h : ∀ a ∈ l, (p a).toNat + (q a).toNat = (r a).toNat) :
    l.countP p + l.countP q = l.countP r := by
  induction l with
  | nil => rfl
  | cons a rest ih =>
      have ha := h a List.mem_cons_self
      have hr := ih fun b hb => h b (List.mem_cons_of_mem _ hb)
      simp only [List.countP_cons]
      cases hp : p a <;> cases hq : q a <;> cases hc : r a <;> simp [hp, hq, hc] at ha ⊢ <;> omega

namespace Crew

def tally (members : List Member) (name : String) (phase : Launch → Bool) : Nat :=
  members.countP fun member => member.trigger.lockName == name && phase member.launch

section Tallies

variable {members : List Member} {index : Nat} {member : Member} {next : Launch} {name : String}
  {phase : Launch → Bool} (hm : members[index]? = some member)

include hm

theorem tally_set (next : Launch) (name : String) (phase : Launch → Bool) :
    tally (members.set index { member with launch := next }) name phase +
        (member.trigger.lockName == name && phase member.launch).toNat =
      tally members name phase + (member.trigger.lockName == name && phase next).toNat :=
  countP_set_of_getElem?
    (fun other : Member => other.trigger.lockName == name && phase other.launch) hm

theorem tally_other (hn : member.trigger.lockName ≠ name) :
    tally (members.set index { member with launch := next }) name phase =
      tally members name phase := by
  have ht := tally_set hm next name phase
  have hb : (member.trigger.lockName == name) = false := beq_false_of_ne hn
  simp only [hb, Bool.false_and] at ht
  exact Nat.add_right_cancel ht

theorem tally_kept (hp : phase next = phase member.launch) :
    tally (members.set index { member with launch := next }) name phase =
      tally members name phase := by
  have ht := tally_set hm next name phase
  rw [hp] at ht
  exact Nat.add_right_cancel ht

theorem tally_gained (hn : member.trigger.lockName = name) (hb : phase member.launch = false)
    (ha : phase next = true) :
    tally (members.set index { member with launch := next }) name phase =
      tally members name phase + 1 := by
  have ht := tally_set hm next name phase
  simp only [hn, hb, ha, BEq.rfl, Bool.and_false, Bool.and_true] at ht
  exact ht

end Tallies

end Crew

end BuildScheduler
