import BuildScheduler.Proofs.Config.Accepted
import BuildScheduler.Proofs.Json.Alike
import BuildScheduler.Proofs.RoundTrip.Configs
import BuildScheduler.Proofs.RoundTrip.Events

/-!
# Stored records survive

What was read of a text as a record is read back from the text that it is written as. That text is
the same for all texts that differ only in how they spell an identifier or an instant, since such
texts are read as the same record.
-/

namespace BuildScheduler

open Json (Document Node readText)

/-- What is read of the text that a value is written as is the value. -/
def Json.Survives (decode : Json.Decoder α) (toJson : α → Json) (value : α) : Prop :=
  readText decode (toJson value).render = .ok value

/-- Two texts are met alike but for the values of some fields, and nothing follows in one that does
not in the other. -/
def Json.Respells (record : Json.Record α) (same : String → Node → Node → Prop) (s t : String) :
    Prop :=
  record.Alike same (Document.ofText s).root (Document.ofText t).root ∧
    (Document.ofText s).trailing = (Document.ofText t).trailing

theorem Json.readText_of_respells {record : Json.Record α} {same : String → Node → Node → Prop}
    (hs : record.ReadsAlike same) (hn : (record.fields.map (·.name)).Nodup) {s t : String}
    (h : Respells record same s t) : readText record.decode s = readText record.decode t := by
  unfold readText Document.read
  rw [Json.Record.decode_alike hs hn h.1, h.2]

theorem Json.exists_decode_of_readText {decode : Json.Decoder α} {text : String} {value : α}
    (h : readText decode text = .ok value) : ∃ node, decode node = .ok value := by
  obtain ⟨found, hd, h⟩ := bind_ok_iff.1 h
  split at h
  · cases h
  · cases h
    exact ⟨_, hd⟩

/-! ## Spellings -/

inductive BuildEvent.Respelled : String → Node → Node → Prop where
  | id {id : BuildId} {s t : String} (hs : id.Spells s) (ht : id.Spells t) :
      Respelled "id" (.str s) (.str t)
  | deferredAt {i : Instant} {s t : String} (hy : i.InFourDigitYears) (hs : i.Spells s)
      (ht : i.Spells t) : Respelled "deferred_at" (.str s) (.str t)

inductive LockRecord.Respelled : String → Node → Node → Prop where
  | expiresAt {i : Instant} {s t : String} (hy : i.InFourDigitYears) (hs : i.Spells s)
      (ht : i.Spells t) : Respelled "expires_at" (.str s) (.str t)

theorem BuildId.decode_of_spells {id : BuildId} {s : String} (h : id.Spells s) :
    decode (.str s) = .ok id := by
  unfold decode
  dsimp only
  rw [ofText?_of_spells h]

theorem Instant.decode_of_spells {i : Instant} {s : String} (hy : i.InFourDigitYears)
    (h : i.Spells s) : decode (.str s) = .ok i := by
  unfold decode
  dsimp only
  rw [ofText?_of_spells hy h]

theorem BuildEvent.readsAlike : record.ReadsAlike Respelled := by
  intro name a b h
  cases h with
  | @id id s t hs ht =>
      refine ⟨_, rfl, fun before => ?_⟩
      have hboth : Json.Decode.option BuildId.decode (.str s) =
          Json.Decode.option BuildId.decode (.str t) := by
        unfold Json.Decode.option
        dsimp only
        rw [BuildId.decode_of_spells hs, BuildId.decode_of_spells ht]
      dsimp only
      rw [hboth]
  | @deferredAt i s t hy hs ht =>
      refine ⟨_, rfl, fun before => ?_⟩
      have hboth : Json.Decode.option Instant.decode (.str s) =
          Json.Decode.option Instant.decode (.str t) := by
        unfold Json.Decode.option
        dsimp only
        rw [Instant.decode_of_spells hy hs, Instant.decode_of_spells hy ht]
      dsimp only
      rw [hboth]

theorem LockRecord.readsAlike : decoding.ReadsAlike Respelled := by
  intro name a b h
  cases h with
  | expiresAt hy hs ht =>
      refine ⟨_, rfl, fun before => ?_⟩
      dsimp only
      rw [Instant.decode_of_spells hy hs, Instant.decode_of_spells hy ht]

/-! ## Stored records -/

theorem Config.writable_of_ofText {text : String} {config : Config}
    (h : ofText text = .ok config) : config.Writable := by
  obtain ⟨document, -, hd⟩ := ofText_ok_iff.1 h
  have hsound := sound_of_ofDocument hd (keyed_of_ofText h)
  exact ⟨hsound.attempts.2, fun project hp pattern hm => (hsound.patterns project hp pattern hm).1⟩

/-- Records that were read survive their texts, if their instants are of years with four digits. A
respelled text is read as the same record and so written alike. -/
theorem records_survive :
    (∀ (text : String) (event : BuildEvent), readText BuildEvent.decode text = .ok event →
      (∀ time ∈ event.deferredAt, time.InFourDigitYears) →
        Json.Survives BuildEvent.decode BuildEvent.toJson event) ∧
    (∀ (text : String) (record : LockRecord), readText LockRecord.decode text = .ok record →
      record.expiresAt.InFourDigitYears →
        Json.Survives LockRecord.decode LockRecord.toJson record) ∧
    (∀ (text : String) (project : Project), readText Project.decode text = .ok project →
      Json.Survives Project.decode Project.toJson project) ∧
    (∀ (text : String) (config : Config),
      readText Config.decode text = .ok config ∨ Config.ofText text = .ok config →
        Json.Survives Config.decode Config.toJson config) ∧
    (∀ s t : String, Json.Respells BuildEvent.record BuildEvent.Respelled s t →
      readText BuildEvent.decode s = readText BuildEvent.decode t) ∧
    ∀ s t : String, Json.Respells LockRecord.decoding LockRecord.Respelled s t →
      readText LockRecord.decode s = readText LockRecord.decode t := by
  refine ⟨fun text event h hy => ?_, fun text record h hy => ?_, fun text project h => ?_,
    fun text config h => ?_, fun s t h => ?_, fun s t h => ?_⟩
  · obtain ⟨node, hd⟩ := Json.exists_decode_of_readText h
    have hleap := BuildEvent.leapEndsMinute_of_decode hd
    exact (BuildEvent.readBack fun time hm => ⟨hleap time hm, hy time hm⟩).readText (by decide)
  · obtain ⟨node, hd⟩ := Json.exists_decode_of_readText h
    have hleap := LockRecord.leapEndsMinute_of_decode hd
    exact (LockRecord.readBack ⟨hleap, hy⟩).readText (by decide)
  · obtain ⟨node, hd⟩ := Json.exists_decode_of_readText h
    exact (Project.readBack (Project.writable_of_decode hd)).readText (by decide)
  · have hw : config.Writable := by
      rcases h with hj | hk
      · obtain ⟨node, hd⟩ := Json.exists_decode_of_readText hj
        exact Config.writable_of_decode hd
      · exact Config.writable_of_ofText hk
    exact (Config.readBack hw).readText (by decide)
  · exact Json.readText_of_respells BuildEvent.readsAlike (by decide) h
  · exact Json.readText_of_respells LockRecord.readsAlike (by decide) h

def sampleEvent (id time : String) : String :=
  (Json.obj [("deferred_at", .str time), ("id", .str id), ("project", .str "b"), ("ref", .str "c"),
    ("team", .str "a")]).render

theorem respells_sampleEvent {id : BuildId} {i : Instant} (hy : i.InFourDigitYears)
    {one other time later : String} (hi : id.Spells one) (hj : id.Spells other)
    (hs : i.Spells time) (ht : i.Spells later) :
    Json.Respells BuildEvent.record BuildEvent.Respelled (sampleEvent one time)
      (sampleEvent other later) := by
  have hmet : ∀ id time, Document.ofText (sampleEvent id time) = ⟨Json.toNode (.obj
      [("deferred_at", .str time), ("id", .str id), ("project", .str "b"), ("ref", .str "c"),
        ("team", .str "a")]), none⟩ :=
    fun id time => Json.ofText_render (by simp [Json.Plain, Json.PlainMembers])
  unfold Json.Respells
  rw [hmet, hmet]
  exact ⟨.object none (.cons (.inr ⟨_, rfl, rfl, .deferredAt hy hs ht⟩)
    (.cons (.inr ⟨_, rfl, rfl, .id hi hj⟩) (.cons (.inl rfl) (.cons (.inl rfl)
      (.cons (.inl rfl) .nil))))), rfl⟩

def sampleLock (time : String) : String :=
  (Json.obj [("expires_at", .str time), ("name", .str "a/b/c")]).render

theorem respells_sampleLock {i : Instant} (hy : i.InFourDigitYears) {time later : String}
    (hs : i.Spells time) (ht : i.Spells later) :
    Json.Respells LockRecord.decoding LockRecord.Respelled (sampleLock time)
      (sampleLock later) := by
  have hmet : ∀ time, Document.ofText (sampleLock time) =
      ⟨Json.toNode (.obj [("expires_at", .str time), ("name", .str "a/b/c")]), none⟩ :=
    fun time => Json.ofText_render (by simp [Json.Plain, Json.PlainMembers])
  unfold Json.Respells
  rw [hmet, hmet]
  exact ⟨.object none (.cons (.inr ⟨_, rfl, rfl, .expiresAt hy hs ht⟩) (.cons (.inl rfl) .nil)),
    rfl⟩

/-- One instant and one identifier, each in two spellings. -/
theorem exists_spellings :
    (∃ i : Instant, i.InFourDigitYears ∧ i.Spells "2026-01-02T03:04:05.5+02:00" ∧
      i.Spells "2026-01-02T01:04:05.500Z") ∧
    ∃ id : BuildId, id.Spells "00000000-0000-0000-0000-00000000000a" ∧
      id.Spells "urn:uuid:00000000-0000-0000-0000-00000000000A" := by
  have hday : Date.Valid ⟨2026, 1, 2⟩ := by decide
  have hyear : Instant.minYear ≤ 2026 ∧ 2026 ≤ Instant.maxYear := by decide
  constructor
  · refine ⟨⟨1767315845, 500000000, by decide⟩, by decide +kernel,
      ⟨⟨⟨2026, 1, 2⟩, 3, 4, 5, ['5'], .east 2 0⟩,
        ⟨hday, hyear, ?_, ?_, ?_, List.all_eq_true.1 rfl, ?_, ?_⟩, ⟨?_, ?_⟩, ?_⟩,
      ⟨⟨⟨2026, 1, 2⟩, 1, 4, 5, ['5', '0', '0'], .universal⟩,
        ⟨hday, hyear, ?_, ?_, ?_, List.all_eq_true.1 rfl, ?_, ?_⟩, ⟨?_, ?_⟩, ?_⟩⟩
    all_goals decide +kernel
  · exact ⟨⟨10⟩,
      ⟨.hyphenated, List.replicate 31 '0' ++ ['a'], by decide +kernel, by decide +kernel⟩,
      ⟨.urn, List.replicate 31 '0' ++ ['A'], by decide +kernel, by decide +kernel⟩⟩

theorem records_survive_respelled :
    (∃ event,
      readText BuildEvent.decode (sampleEvent "00000000-0000-0000-0000-00000000000a"
        "2026-01-02T03:04:05.5+02:00") = .ok event ∧
      readText BuildEvent.decode (sampleEvent "urn:uuid:00000000-0000-0000-0000-00000000000A"
        "2026-01-02T01:04:05.500Z") = .ok event ∧
      Json.Survives BuildEvent.decode BuildEvent.toJson event) ∧
    (∃ record,
      readText LockRecord.decode (sampleLock "2026-01-02T03:04:05.5+02:00") = .ok record ∧
      readText LockRecord.decode (sampleLock "2026-01-02T01:04:05.500Z") = .ok record ∧
      Json.Survives LockRecord.decode LockRecord.toJson record) ∧
    (∃ project,
      readText Project.decode "[\"a\",\"b\",[\"c\",\"d+\"],[\"e\"]]" = .ok project ∧
      Json.Survives Project.decode Project.toJson project) ∧
    ∃ config, Config.ofText "project \"a/b\" image=\"c\" managed-ref=\"d+\"" = .ok config ∧
      Json.Survives Config.decode Config.toJson config := by
  obtain ⟨hevents, hlocks, hprojects, hconfigs, hsame, hsameLock⟩ := records_survive
  obtain ⟨⟨i, hy, hs, ht⟩, id, hi, hj⟩ := exists_spellings
  refine ⟨?_, ?_, ?_, ?_⟩
  · obtain ⟨event, hread, hyears⟩ := exists_ok_of_any
      (readText BuildEvent.decode (sampleEvent "00000000-0000-0000-0000-00000000000a"
        "2026-01-02T03:04:05.5+02:00"))
      (fun event => decide (∀ time ∈ event.deferredAt, time.InFourDigitYears)) (by decide +kernel)
    have hother := hsame _ _ (respells_sampleEvent hy hi hj hs ht)
    exact ⟨event, hread, hother ▸ hread, hevents _ event hread (of_decide_eq_true hyears)⟩
  · obtain ⟨record, hread, hyears⟩ := exists_ok_of_any
      (readText LockRecord.decode (sampleLock "2026-01-02T03:04:05.5+02:00"))
      (fun record => decide record.expiresAt.InFourDigitYears) (by decide +kernel)
    have hother := hsameLock _ _ (respells_sampleLock hy hs ht)
    exact ⟨record, hread, hother ▸ hread, hlocks _ record hread (of_decide_eq_true hyears)⟩
  · obtain ⟨project, hread, -⟩ := exists_ok_of_any
      (readText Project.decode "[\"a\",\"b\",[\"c\",\"d+\"],[\"e\"]]") (fun _ => true)
      (by decide +kernel)
    exact ⟨project, hread, hprojects _ project hread⟩
  · obtain ⟨config, hread, -⟩ := exists_ok_of_any
      (Config.ofText "project \"a/b\" image=\"c\" managed-ref=\"d+\"") (fun _ => true)
      (by decide +kernel)
    exact ⟨config, hread, hconfigs _ config (.inr hread)⟩

end BuildScheduler
