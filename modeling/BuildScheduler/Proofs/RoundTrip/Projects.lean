import BuildScheduler.Project
import BuildScheduler.Proofs.Json.RoundTrip

/-!
# Projects are read back

A descriptor is written with the text of its pattern, and that text is read as the pattern. An
empty text would be read as none, but no pattern that was read has one.
-/

namespace BuildScheduler

open Json (ReadBack Update)
open Json.Record (HasPart)

theorem RefPattern.ofText?_self (pattern : RefPattern) : ofText? pattern.text = some pattern := by
  have hread := pattern.read_text
  cases h : ofText? pattern.text with
  | some found => rw [RefPattern.ext (ofText?_text h)]
  | none =>
      unfold ofText? at h
      split at h
      · cases h
      · rename_i hnone
        rw [hread] at hnone
        cases hnone

/-! ## Descriptors -/

namespace Descriptor

/-- A pattern has a text that is not empty. -/
def Writable (descriptor : Descriptor) : Prop :=
  ∀ pattern ∈ descriptor.managedRef, pattern.text ≠ ""

theorem writable_of_make {image : String} {text : Option String} {descriptor : Descriptor}
    (h : make image text = .ok descriptor) : descriptor.Writable := by
  unfold make at h
  split at h
  · cases h
    nofun
  · split at h
    · cases h
      nofun
    · rename_i hne
      split at h
      · rename_i pattern hp
        cases h
        intro other ho
        cases ho
        rw [RefPattern.ofText?_text hp]
        exact hne
      · cases h

theorem writable_of_decode {node : Json.Node} {descriptor : Descriptor}
    (h : decode node = .ok descriptor) : descriptor.Writable := by
  obtain ⟨parts, -, h⟩ := bind_ok_iff.1 h
  cases hm : make parts.image parts.pattern with
  | ok made =>
      rw [hm] at h
      cases h
      exact writable_of_make hm
  | error error =>
      rw [hm] at h
      cases h

def parts (descriptor : Descriptor) : Parts :=
  ⟨descriptor.image, descriptor.managedRef.map (·.text)⟩

theorem make_parts {descriptor : Descriptor} (h : descriptor.Writable) :
    make descriptor.parts.image descriptor.parts.pattern = .ok descriptor := by
  cases descriptor with
  | mk image managedRef =>
    cases managedRef with
    | none => rfl
    | some pattern =>
        have hne : pattern.text ≠ "" := h pattern rfl
        show make image (some pattern.text) = _
        rw [make, if_neg hne, RefPattern.ofText?_self]

def updates (descriptor : Descriptor) : List (Update Parts) :=
  ⟨"buildImage", .str descriptor.image, fun before => { before with image := descriptor.image }⟩ ::
  (descriptor.managedRef.map fun pattern =>
    (⟨"managedRefRegex", .str pattern.text,
      fun before => { before with pattern := some pattern.text }⟩ : Update Parts)).toList

theorem parts_readBack (descriptor : Descriptor) :
    ReadBack record.decode 1 descriptor.toJson descriptor.parts := by
  have hwritten : descriptor.toJson = Json.object (descriptor.updates.map Update.member) := by
    unfold toJson updates
    cases descriptor.managedRef <;> rfl
  rw [hwritten]
  refine ReadBack.record ?_ ?_ ?_ ?_ ?_
  · refine List.forall_mem_cons.2 ⟨?_, ?_⟩
    · exact .of_field (ReadBack.string descriptor.image) rfl rfl rfl
    · exact Json.forall_mem_toList_map fun pattern _ =>
        .of_field ((ReadBack.string pattern.text).some nofun) rfl rfl rfl
  · unfold updates
    cases descriptor.managedRef <;> simp
  · unfold updates
    cases descriptor.managedRef <;> simp [Update.Commutes]
  · simp [updates, record]
  · unfold updates parts
    cases descriptor.managedRef <;> rfl

theorem decode_of_parts {node : Json.Node} {parts : Parts} {descriptor : Descriptor}
    (h : record.decode node = .ok parts) (hm : make parts.image parts.pattern = .ok descriptor) :
    decode node = .ok descriptor := by
  refine bind_ok_iff.2 ⟨parts, h, ?_⟩
  rw [hm]

theorem readBack {descriptor : Descriptor} (h : descriptor.Writable) :
    ReadBack decode 1 descriptor.toJson descriptor where
  plain := descriptor.parts_readBack.plain
  read := decode_of_parts descriptor.parts_readBack.read (make_parts h)

end Descriptor

/-! ## Projects -/

namespace Project

theorem hasDescriptor : HasPart record (fun _ _ project => project) "descriptor" Descriptor.decode
    Project.descriptor where
  known := by simp [Json.Record.Knows, record]
  own := by simp [record, fmap_ok_iff]
  reads := by simp +contextual [record, fmap_ok_iff]
  other := by simp +contextual [record, fmap_ok_iff]
  kept _ _ _ := rfl

theorem writable_of_decode {node : Json.Node} {project : Project}
    (h : decode node = .ok project) : project.descriptor.Writable :=
  hasDescriptor.holds_of_decode nofun nofun (fun _ _ hr => Descriptor.writable_of_decode hr) h

def updates (project : Project) : List (Update Project) :=
  [⟨"team", .str project.team, fun before => { before with team := project.team }⟩,
    ⟨"project", .str project.name, fun before => { before with name := project.name }⟩,
    ⟨"descriptor", project.descriptor.toJson,
      fun before => { before with descriptor := project.descriptor }⟩] ++
  (if project.sidecars.isEmpty then []
    else [⟨"sidecars", .arr (project.sidecars.map .str),
      fun before => { before with sidecars := project.sidecars }⟩])

theorem readBack {project : Project} (h : project.descriptor.Writable) :
    ReadBack decode 2 project.toJson project := by
  have hwritten : project.toJson = Json.object (project.updates.map Update.member) := by
    unfold toJson updates
    cases project.sidecars <;> rfl
  have hsidecars : ReadBack (Json.Decode.list Json.Decode.string) 1
      (.arr (project.sidecars.map .str)) project.sidecars :=
    ReadBack.list fun text _ => ReadBack.string text
  rw [hwritten]
  refine ReadBack.record ?_ ?_ ?_ ?_ ?_
  · refine List.forall_mem_append.2 ⟨?_, ?_⟩
    · rw [List.forall_mem_cons, List.forall_mem_cons, List.forall_mem_singleton]
      exact ⟨.of_field ((ReadBack.string project.team).mono (Nat.zero_le 1)) rfl rfl rfl,
        .of_field ((ReadBack.string project.name).mono (Nat.zero_le 1)) rfl rfl rfl,
        .of_field (Descriptor.readBack h) rfl rfl rfl⟩
    · split
      · nofun
      · exact List.forall_mem_singleton.2 (.of_field hsidecars rfl rfl rfl)
  · unfold updates
    cases project.sidecars <;> simp
  · unfold updates
    cases project.sidecars <;> simp [Update.Commutes]
  · simp [updates, record]
  · unfold updates
    cases project with
    | mk team name descriptor sidecars => cases sidecars <;> rfl

end Project

end BuildScheduler
