import BuildScheduler.Config.Basic
import BuildScheduler.Proofs.RoundTrip.Projects

/-!
# Configurations are read back

A configuration is read back with its spans, backends and projects, if the number of attempts fits
its type and its patterns have texts. Every configuration that was read is of this kind.
-/

namespace BuildScheduler

open Json (ReadBack Update)
open Json.Record (HasPart)

/-! ## Spans -/

namespace Span

def updates (span : Span) : List (Update Parts) :=
  [⟨"secs", .int span.seconds, fun before => { before with seconds := span.seconds }⟩,
    ⟨"nanos", .int span.subsecond, fun before => { before with nanos := span.subsecond }⟩]

theorem parts_readBack (span : Span) :
    ReadBack record.decode 1 span.toJson ⟨span.seconds, span.subsecond⟩ := by
  have hseconds : span.seconds ≤ 18446744073709551615 := Nat.le_of_lt_succ span.seconds_lt
  have hnanos : span.subsecond ≤ 4294967295 := by
    have hlt := Nat.mod_lt span.nanos (by decide : 0 < nanosPerSecond)
    unfold nanosPerSecond at hlt
    unfold subsecond nanosPerSecond
    omega
  have hwritten : span.toJson = Json.object (span.updates.map Update.member) := rfl
  rw [hwritten]
  refine ReadBack.record ?_ ?_ ?_ ?_ rfl
  · unfold updates
    rw [List.forall_mem_cons, List.forall_mem_singleton]
    exact ⟨.of_field (ReadBack.nat hseconds (Nat.le_refl _)) rfl rfl rfl,
      .of_field (ReadBack.nat hnanos (by decide)) rfl rfl rfl⟩
  · simp [updates]
  · simp [updates, Update.Commutes]
  · simp [updates, record]

theorem decode_of_parts {node : Json.Node} {parts : Parts} {span : Span}
    (h : record.decode node = .ok parts)
    (hs : ofNanos? (parts.seconds * nanosPerSecond + parts.nanos) = some span) :
    decode node = .ok span := by
  refine bind_ok_iff.2 ⟨parts, h, ?_⟩
  rw [hs]

theorem readBack (span : Span) : ReadBack decode 1 span.toJson span where
  plain := span.parts_readBack.plain
  read := by
    have hspan : ofNanos? (span.seconds * nanosPerSecond + span.subsecond) = some span := by
      rw [span.seconds_subsecond, ofNanos?, dif_pos span.nanos_lt]
    exact decode_of_parts span.parts_readBack.read hspan

end Span

/-! ## Settings -/

theorem Backend.readBack (backend : Backend) : ReadBack decode 0 backend.toJson backend where
  plain room _ := by simp [toJson, Json.Plain]
  read := by cases backend <;> rfl

namespace RetrySettings

/-- The number of attempts fits its type. -/
def Writable (settings : RetrySettings) : Prop := settings.maxAttempts ≤ 4294967295

theorem hasMaxAttempts : HasPart record (fun _ _ settings => settings) "max_attempts"
    Json.Decode.nat32 RetrySettings.maxAttempts where
  known := by simp [Json.Record.Knows, record]
  own := by simp [record, fmap_ok_iff]
  reads := by simp +contextual [record, fmap_ok_iff]
  other := by simp +contextual [record, fmap_ok_iff]
  kept _ _ _ := rfl

theorem nat32_le {node : Json.Node} {count : Nat} (h : Json.Decode.nat32 node = .ok count) :
    count ≤ 4294967295 := by
  obtain ⟨value, hv, rfl⟩ := map_ok_iff.1 h
  unfold Json.Decode.integer at hv
  split at hv
  · split at hv
    · cases hv
      omega
    · cases hv
  · cases hv

theorem writable_of_decode {node : Json.Node} {settings : RetrySettings}
    (h : decode node = .ok settings) : settings.Writable :=
  hasMaxAttempts.holds_of_decode (P := (· ≤ 4294967295)) nofun (by decide)
    (fun _ _ hr => nat32_le hr) h

def updates (settings : RetrySettings) : List (Update RetrySettings) :=
  [⟨"timeout", (settings.timeout.map Span.toJson).getD .null,
      fun before => { before with timeout := settings.timeout }⟩,
    ⟨"max_attempts", .int settings.maxAttempts,
      fun before => { before with maxAttempts := settings.maxAttempts }⟩]

theorem readBack {settings : RetrySettings} (h : settings.Writable) :
    ReadBack decode 2 settings.toJson settings := by
  have htimeout : ReadBack (Json.Decode.option Span.decode) 1
      ((settings.timeout.map Span.toJson).getD .null) settings.timeout :=
    ReadBack.option (fun span _ => span.readBack) fun span => nofun
  have hattempts : ReadBack Json.Decode.nat32 0 (.int settings.maxAttempts) settings.maxAttempts :=
    ReadBack.nat h (by decide)
  have hwritten : settings.toJson = Json.object (settings.updates.map Update.member) := rfl
  rw [hwritten]
  refine ReadBack.record ?_ ?_ ?_ ?_ rfl
  · unfold updates
    rw [List.forall_mem_cons, List.forall_mem_singleton]
    exact ⟨.of_field htimeout rfl rfl rfl,
      .of_field (hattempts.mono (Nat.zero_le 1)) rfl rfl rfl⟩
  · simp [updates]
  · simp [updates, Update.Commutes]
  · simp [updates, record]

end RetrySettings

namespace ScriptsSource

def updates (source : ScriptsSource) : List (Update ScriptsSource) :=
  [⟨"repository", .str source.repository,
      fun before => { before with repository := source.repository }⟩,
    ⟨"branch", .str source.branch, fun before => { before with branch := source.branch }⟩]

theorem readBack (source : ScriptsSource) : ReadBack decode 1 source.toJson source := by
  have hwritten : source.toJson = Json.object (source.updates.map Update.member) := rfl
  rw [hwritten]
  refine ReadBack.record ?_ ?_ ?_ ?_ rfl
  · unfold updates
    rw [List.forall_mem_cons, List.forall_mem_singleton]
    exact ⟨.of_field (ReadBack.string source.repository) rfl rfl rfl,
      .of_field (ReadBack.string source.branch) rfl rfl rfl⟩
  · simp [updates]
  · simp [updates, Update.Commutes]
  · simp [updates, record]

end ScriptsSource

/-! ## Configurations -/

namespace Config

/-- The number of attempts fits its type, and patterns have texts. -/
structure Writable (config : Config) : Prop where
  retry : config.retry.Writable
  projects : ∀ project ∈ config.projects, project.descriptor.Writable

theorem hasRetry : HasPart record (fun _ _ config => config) "retry" RetrySettings.decode
    Config.retry where
  known := by simp [Json.Record.Knows, record]
  own := by simp [record, fmap_ok_iff]
  reads := by simp +contextual [record, fmap_ok_iff]
  other := by simp +contextual [record, fmap_ok_iff]
  kept _ _ _ := rfl

theorem hasProjects : HasPart record (fun _ _ config => config) "projects"
    (Json.Decode.list Project.decode) Config.projects where
  known := by simp [Json.Record.Knows, record]
  own := by simp [record, fmap_ok_iff]
  reads := by simp +contextual [record, fmap_ok_iff]
  other := by simp +contextual [record, fmap_ok_iff]
  kept _ _ _ := rfl

theorem writable_of_decode {node : Json.Node} {config : Config} (h : decode node = .ok config) :
    config.Writable where
  retry := by
    refine hasRetry.holds_of_decode (P := RetrySettings.Writable) nofun ?_ ?_ h
    · exact (by decide : (3 : Nat) ≤ 4294967295)
    · exact fun _ _ hr => RetrySettings.writable_of_decode hr
  projects := by
    refine hasProjects.holds_of_decode
      (P := fun projects => ∀ project ∈ projects, project.descriptor.Writable) nofun nofun ?_ h
    exact fun _ _ hr => Json.Decode.keeps_of_list (fun _ _ hd => Project.writable_of_decode hd) hr

def updates (config : Config) : List (Update Config) :=
  [⟨"namespace", .str config.nameSpace,
      fun before => { before with nameSpace := config.nameSpace }⟩,
    ⟨"lock_ttl", config.lockTtl.toJson, fun before => { before with lockTtl := config.lockTtl }⟩,
    ⟨"deferral_interval", config.deferralInterval.toJson,
      fun before => { before with deferralInterval := config.deferralInterval }⟩,
    ⟨"lock_store", config.lockStore.toJson,
      fun before => { before with lockStore := config.lockStore }⟩,
    ⟨"deferral_store", config.deferralStore.toJson,
      fun before => { before with deferralStore := config.deferralStore }⟩,
    ⟨"database_url", (config.databaseUrl.map Json.str).getD .null,
      fun before => { before with databaseUrl := config.databaseUrl }⟩,
    ⟨"retry", config.retry.toJson, fun before => { before with retry := config.retry }⟩,
    ⟨"build_scripts", config.scripts.toJson,
      fun before => { before with scripts := config.scripts }⟩,
    ⟨"credentials_secret", .str config.credentialsSecret,
      fun before => { before with credentialsSecret := config.credentialsSecret }⟩,
    ⟨"projects", .arr (config.projects.map Project.toJson),
      fun before => { before with projects := config.projects }⟩]

theorem readBack {config : Config} (h : config.Writable) :
    ReadBack decode 4 config.toJson config := by
  have hurl : ReadBack (Json.Decode.option Json.Decode.string) 0
      ((config.databaseUrl.map Json.str).getD .null) config.databaseUrl :=
    ReadBack.option (fun url _ => ReadBack.string url) fun url => nofun
  have hprojects : ReadBack (Json.Decode.list Project.decode) 3
      (.arr (config.projects.map Project.toJson)) config.projects :=
    ReadBack.list fun project hm => Project.readBack (h.projects project hm)
  have hwritten : config.toJson = Json.object (config.updates.map Update.member) := rfl
  rw [hwritten]
  refine ReadBack.record ?_ ?_ ?_ ?_ rfl
  · unfold updates
    simp only [List.forall_mem_cons, List.not_mem_nil, false_implies, implies_true, and_true]
    refine ⟨?_, ?_, ?_, ?_, ?_, ?_, ?_, ?_, ?_, ?_⟩
    · exact .of_field ((ReadBack.string config.nameSpace).mono (Nat.zero_le 3)) rfl rfl rfl
    · exact .of_field (config.lockTtl.readBack.mono (by decide)) rfl rfl rfl
    · exact .of_field (config.deferralInterval.readBack.mono (by decide)) rfl rfl rfl
    · exact .of_field (config.lockStore.readBack.mono (by decide)) rfl rfl rfl
    · exact .of_field (config.deferralStore.readBack.mono (by decide)) rfl rfl rfl
    · exact .of_field (hurl.mono (by decide)) rfl rfl rfl
    · exact .of_field ((RetrySettings.readBack h.retry).mono (by decide)) rfl rfl rfl
    · exact .of_field (config.scripts.readBack.mono (by decide)) rfl rfl rfl
    · exact .of_field ((ReadBack.string config.credentialsSecret).mono (by decide)) rfl rfl rfl
    · exact .of_field hprojects rfl rfl rfl
  · simp [updates]
  · simp [updates, Update.Commutes]
  · simp [updates, record]

end Config

end BuildScheduler
