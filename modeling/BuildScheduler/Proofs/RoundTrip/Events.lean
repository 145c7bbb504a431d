import BuildScheduler.Lock
import BuildScheduler.Proofs.Identifiers.Spellings
import BuildScheduler.Proofs.Json.RoundTrip
import BuildScheduler.Proofs.Time.Spellings

/-!
# Events and lock records are read back

Identifiers and instants are written as texts that are read as them, so events and lock records are
read back, if their instants are of years with four digits. A leap second that was read stands at
the end of a minute, and so it is written as one.
-/

namespace BuildScheduler

open Json (ReadBack Update)
open Json.Record (HasPart)

/-! ## Texts -/

theorem BuildId.readBack (id : BuildId) : ReadBack decode 0 id.toJson id where
  plain room _ := by simp [toJson, Json.Plain]
  read := by
    unfold toJson Json.toNode decode
    dsimp only
    rw [ofText?_of_spells id.spells_toText]

/-- The instants whose texts are read back. -/
structure Instant.Writable (i : Instant) : Prop where
  leap : i.LeapEndsMinute
  years : i.InFourDigitYears

theorem Instant.readBack {i : Instant} (h : i.Writable) : ReadBack decode 0 i.toJson i where
  plain room _ := by simp [toJson, Json.Plain]
  read := by
    unfold toJson Json.toNode decode
    dsimp only
    rw [ofText?_of_spells h.years (spells_toText h.leap h.years)]

theorem Instant.leapEndsMinute_of_decode {node : Json.Node} {i : Instant}
    (h : decode node = .ok i) : i.LeapEndsMinute := by
  unfold decode at h
  split at h
  · split at h
    · rename_i hread
      cases h
      exact leapEndsMinute_of_ofText? hread
    · cases h
  · cases h

/-! ## Events -/

namespace BuildEvent

theorem hasDeferredAt : HasPart record (fun _ _ event => event) "deferred_at"
    (Json.Decode.option Instant.decode) BuildEvent.deferredAt where
  known := by simp [Json.Record.Knows, record]
  own := by simp [record, fmap_ok_iff]
  reads := by simp +contextual [record, fmap_ok_iff]
  other := by simp +contextual [record, fmap_ok_iff]
  kept _ _ _ := rfl

theorem leapEndsMinute_of_decode {node : Json.Node} {event : BuildEvent}
    (h : decode node = .ok event) : ∀ time ∈ event.deferredAt, time.LeapEndsMinute := by
  refine hasDeferredAt.holds_of_decode
    (P := fun deferredAt => ∀ time ∈ deferredAt, time.LeapEndsMinute) nofun nofun ?_ h
  exact fun node found hr =>
    Json.Decode.keeps_of_option (fun _ _ hd => Instant.leapEndsMinute_of_decode hd) hr

def updates (event : BuildEvent) : List (Update BuildEvent) :=
  [⟨"team", .str event.team, fun before => { before with team := event.team }⟩,
    ⟨"project", .str event.project, fun before => { before with project := event.project }⟩,
    ⟨"ref", .str event.ref, fun before => { before with ref := event.ref }⟩] ++
  (event.id.map fun id =>
    (⟨"id", id.toJson, fun before => { before with id := some id }⟩ : Update BuildEvent)).toList ++
  (event.deferredAt.map fun time =>
    (⟨"deferred_at", time.toJson, fun before => { before with deferredAt := some time }⟩ :
      Update BuildEvent)).toList

theorem readBack {event : BuildEvent} (h : ∀ time ∈ event.deferredAt, time.Writable) :
    ReadBack decode 1 event.toJson event := by
  have hwritten : event.toJson = Json.object (event.updates.map Update.member) := by
    unfold toJson updates
    cases event.id <;> cases event.deferredAt <;> rfl
  rw [hwritten]
  refine ReadBack.record ?_ ?_ ?_ ?_ ?_
  · refine List.forall_mem_append.2 ⟨List.forall_mem_append.2 ⟨?_, ?_⟩, ?_⟩
    · rw [List.forall_mem_cons, List.forall_mem_cons, List.forall_mem_singleton]
      exact ⟨.of_field (ReadBack.string event.team) rfl rfl rfl,
        .of_field (ReadBack.string event.project) rfl rfl rfl,
        .of_field (ReadBack.string event.ref) rfl rfl rfl⟩
    · exact Json.forall_mem_toList_map fun id _ => .of_field (id.readBack.some nofun) rfl rfl rfl
    · exact Json.forall_mem_toList_map fun time ht =>
        .of_field ((Instant.readBack (h time ht)).some nofun) rfl rfl rfl
  · unfold updates
    cases event.id <;> cases event.deferredAt <;> simp
  · unfold updates
    cases event.id <;> cases event.deferredAt <;> simp [Update.Commutes]
  · unfold updates
    simp [record]
  · unfold updates
    cases event with
    | mk team project ref id deferredAt => cases id <;> cases deferredAt <;> rfl

end BuildEvent

/-! ## Lock records -/

namespace LockRecord

theorem hasExpiresAt : HasPart decoding (fun _ _ record => record) "expires_at" Instant.decode
    LockRecord.expiresAt where
  known := by simp [Json.Record.Knows, decoding]
  own := by simp [decoding, fmap_ok_iff]
  reads := by simp +contextual [decoding, fmap_ok_iff]
  other := by simp +contextual [decoding, fmap_ok_iff]
  kept _ _ _ := rfl

theorem leapEndsMinute_of_decode {node : Json.Node} {record : LockRecord}
    (h : decode node = .ok record) : record.expiresAt.LeapEndsMinute := by
  refine hasExpiresAt.holds_of_decode (P := Instant.LeapEndsMinute) nofun ?_ ?_ h
  · -- the blank record expires at the epoch
    exact fun hl => absurd hl (by decide)
  · exact fun node found hr => Instant.leapEndsMinute_of_decode hr

def updates (record : LockRecord) : List (Update LockRecord) :=
  [⟨"name", .str record.name, fun before => { before with name := record.name }⟩,
    ⟨"expires_at", record.expiresAt.toJson,
      fun before => { before with expiresAt := record.expiresAt }⟩]

theorem readBack {record : LockRecord} (h : record.expiresAt.Writable) :
    ReadBack decode 1 record.toJson record := by
  have hwritten : record.toJson = Json.object (record.updates.map Update.member) := rfl
  rw [hwritten]
  refine ReadBack.record ?_ ?_ ?_ ?_ rfl
  · unfold updates
    rw [List.forall_mem_cons, List.forall_mem_singleton]
    exact ⟨.of_field (ReadBack.string record.name) rfl rfl rfl,
      .of_field (Instant.readBack h) rfl rfl rfl⟩
  · simp [updates]
  · simp [updates, Update.Commutes]
  · simp [updates, decoding]

end LockRecord

end BuildScheduler
