import BuildScheduler.Proofs.Launch.Moves

/-!
# Launches side by side

A crew is any number of launches over one world. They take their steps in turns, in any order,
and between two turns any time may pass. The log has every call with the member that made it and
the clock it was made at; `holder` reads off it who wrote the record of a lock name.
-/

namespace BuildScheduler

namespace Call

def written? : Call → Option LockRecord
  | .put record _ (.ok true) => some record
  | _ => none

def deleted? : Call → Option String
  | .delete name (.ok ()) => some name
  | _ => none

/-- Whether a call asks for a pod of a lock name, whatever the answer. -/
def submits (name : String) : Call → Bool
  | .create spec _ => spec.lockName? == some name
  | _ => false

/-- Whether a call was answered without an error; a put that is refused is. -/
def answered : Call → Bool
  | .put _ _ (.ok _) => true
  | .delete _ (.ok _) => true
  | .defer _ (.ok _) => true
  | .create _ (.ok _) => true
  | _ => false

end Call

structure Member where
  trigger : BuildEvent
  launch : Launch

structure Entry where
  member : Nat
  time : Instant
  call : Call

structure Crew (κ : Type) where
  members : List Member
  world : World κ
  log : List Entry := []

inductive Turn where
  | step (index : Nat)
  | wait (nanos : Nat)
deriving DecidableEq, Repr

namespace Crew

/-- One launch for each of some events, none of them begun. -/
def start (triggers : List BuildEvent) (world : World κ) : Crew κ where
  members := triggers.map fun trigger => ⟨trigger, .requested trigger⟩
  world := world

def take (cluster : Cluster κ) (crew : Crew κ) : Turn → Crew κ
  | .wait nanos => { crew with world := crew.world.wait nanos }
  | .step index =>
      match crew.members[index]? with
      | none => crew
      | some member =>
          let note (world : World κ) (call : Call) : Entry := ⟨index, world.now, call⟩
          let site := ((World.collaborators cluster).recorded note).site
          let (launch, world, log) := member.launch.step site (crew.world, crew.log)
          { members := crew.members.set index { member with launch }, world, log }

def run (cluster : Cluster κ) (crew : Crew κ) (turns : List Turn) : Crew κ :=
  turns.foldl (take cluster) crew

/-! ## What a turn changes -/

def entries (index : Nat) (time : Instant) (calls : List Call) : List Entry :=
  calls.map fun call => ⟨index, time, call⟩

inductive Change : Crew κ → Crew κ → Prop where
  | waited (crew : Crew κ) (nanos : Nat) :
      Change crew { crew with world := crew.world.wait nanos }
  | absent (crew : Crew κ) : Change crew crew
  | moved (crew : Crew κ) (index : Nat) (member : Member) (next : Launch) (after : World κ)
      (calls : List Call) (hm : crew.members[index]? = some member)
      (move : Launch.Move member.launch crew.world next after calls) :
      Change crew {
        members := crew.members.set index { member with launch := next }
        world := after
        log := crew.log ++ entries index crew.world.now calls }

theorem take_change (cluster : Cluster κ) (crew : Crew κ) (turn : Turn) :
    Change crew (crew.take cluster turn) := by
  cases turn with
  | wait nanos => exact .waited crew nanos
  | step index =>
      cases hm : crew.members[index]? with
      | none =>
          have ht : crew.take cluster (.step index) = crew := by simp only [take, hm]
          rw [ht]
          exact .absent crew
      | some member =>
          simp only [take, hm, Collaborators.step_recorded, World.site_collaborators]
          exact .moved crew index member _ _ _ hm
            (Launch.move_step cluster member.launch crew.world)

/-- What every change keeps, a run keeps. -/
theorem run_keeps {kept : Crew κ → Prop}
    (hc : ∀ crew after, Change crew after → kept crew → kept after) (cluster : Cluster κ)
    (turns : List Turn) (crew : Crew κ) (h : kept crew) : kept (crew.run cluster turns) := by
  induction turns generalizing crew with
  | nil => exact h
  | cons turn rest ih => exact ih _ (hc _ _ (take_change cluster crew turn) h)

section Changed

variable {crew after : Crew κ}

theorem Change.now_le (change : Change crew after) : crew.world.now ≤ after.world.now := by
  cases change with
  | waited nanos => exact Instant.add_le_add _ (Nat.le_add_right _ _)
  | absent => exact Int.le_refl _
  | moved index member next after calls hm move => exact move.now_le

theorem Change.log_prefix (change : Change crew after) : ∃ more, after.log = crew.log ++ more := by
  cases change with
  | waited nanos => exact ⟨[], (List.append_nil _).symm⟩
  | absent => exact ⟨[], (List.append_nil _).symm⟩
  | moved index member next after calls hm move => exact ⟨_, rfl⟩

end Changed

/-! ## Who wrote a record -/

def Wrote (log : List Entry) (index : Nat) (record : LockRecord) : Prop :=
  ∃ entry ∈ log, entry.member = index ∧ entry.call.written? = some record

def Released (log : List Entry) (index : Nat) (name : String) : Prop :=
  ∃ entry ∈ log, entry.member = index ∧ entry.call.deleted? = some name

instance (log : List Entry) (index : Nat) (record : LockRecord) :
    Decidable (Wrote log index record) := inferInstanceAs (Decidable (∃ entry ∈ log, _))

instance (log : List Entry) (index : Nat) (name : String) :
    Decidable (Released log index name) := inferInstanceAs (Decidable (∃ entry ∈ log, _))

/-- The holder of a lock name after one more call. -/
def heldAfter (name : String) (holder : Option (Nat × LockRecord)) (entry : Entry) :
    Option (Nat × LockRecord) :=
  match entry.call.written? with
  | some record => if record.name = name then some (entry.member, record) else holder
  | none => if entry.call.deleted? = some name then none else holder

/-- The member that wrote the record of a lock name last, with the record, unless it was deleted
since. -/
def holder (name : String) (log : List Entry) : Option (Nat × LockRecord) :=
  log.foldl (heldAfter name) none

theorem holder_append (name : String) (log more : List Entry) :
    holder name (log ++ more) = more.foldl (heldAfter name) (holder name log) := by
  rw [holder, List.foldl_append, holder]

theorem wrote_append {log more : List Entry} {index : Nat} {record : LockRecord} :
    Wrote (log ++ more) index record ↔ Wrote log index record ∨ Wrote more index record := by
  simp only [Wrote, List.mem_append, or_and_right, exists_or]

theorem released_append {log more : List Entry} {index : Nat} {name : String} :
    Released (log ++ more) index name ↔ Released log index name ∨ Released more index name := by
  simp only [Released, List.mem_append, or_and_right, exists_or]

theorem wrote_entries {calls : List Call} {index other : Nat} {time : Instant}
    {record : LockRecord} :
    Wrote (entries index time calls) other record ↔
      index = other ∧ ∃ call ∈ calls, call.written? = some record := by
  constructor
  · rintro ⟨entry, hm, rfl, hv⟩
    obtain ⟨call, hc, rfl⟩ := List.mem_map.1 hm
    exact ⟨rfl, call, hc, hv⟩
  · rintro ⟨rfl, call, hc, hv⟩
    exact ⟨_, List.mem_map_of_mem hc, rfl, hv⟩

theorem released_entries {calls : List Call} {index other : Nat} {time : Instant} {name : String} :
    Released (entries index time calls) other name ↔
      index = other ∧ ∃ call ∈ calls, call.deleted? = some name := by
  constructor
  · rintro ⟨entry, hm, rfl, hv⟩
    obtain ⟨call, hc, rfl⟩ := List.mem_map.1 hm
    exact ⟨rfl, call, hc, hv⟩
  · rintro ⟨rfl, call, hc, hv⟩
    exact ⟨_, List.mem_map_of_mem hc, rfl, hv⟩

/-- Calls that neither write nor delete a record leave every holder. -/
theorem holder_of_quiet {calls : List Call}
    (hq : ∀ call ∈ calls, call.written? = none ∧ call.deleted? = none) (name : String)
    (log : List Entry) (index : Nat) (time : Instant) :
    holder name (log ++ entries index time calls) = holder name log := by
  rw [holder_append]
  generalize holder name log = held
  induction calls with
  | nil => rfl
  | cons call rest ih =>
      obtain ⟨hw, hd⟩ := hq call List.mem_cons_self
      have ha : heldAfter name held ⟨index, time, call⟩ = held := by simp [heldAfter, hw, hd]
      rw [entries, List.map_cons, List.foldl_cons, ha]
      exact ih fun call hm => hq call (List.mem_cons_of_mem _ hm)

theorem holder_written (name : String) (log : List Entry) (index : Nat) (time now : Instant)
    (record : LockRecord) :
    holder name (log ++ entries index time [.put record now (.ok true)]) =
      if record.name = name then some (index, record) else holder name log := by
  rw [holder_append]
  rfl

theorem holder_deleted (name : String) (log : List Entry) (index : Nat) (time : Instant)
    (other : String) :
    holder name (log ++ entries index time [.delete other (.ok ())]) =
      if other = name then none else holder name log := by
  rw [holder_append]
  simp [entries, heldAfter, Call.written?, Call.deleted?]

/-! ## A small world -/

def sampleEvent : BuildEvent := { team := "acme", project := "widgets", ref := "main" }

/-- One project that builds every ref, locks that live for a millisecond, and a cluster that fails
as planned. -/
def sampleWorld (failures : List (Option Error)) : World Recorder where
  cluster := { createOutages := ⟨failures⟩ }
  start := Instant.ofNanos 0
  catalog := ⟨[{ team := "acme", name := "widgets", descriptor := { image := "builder" } }]⟩
  template := { repository := "scripts", branch := "main" }
  ttl := Span.ofMillis 1

end Crew

end BuildScheduler
