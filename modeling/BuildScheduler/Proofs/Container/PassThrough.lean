import BuildScheduler.Proofs.Container.Reading
import BuildScheduler.Proofs.Json.Writing

/-!
# Containers pass through

A container that is read from a value and written again is that value, but for the members that
stand at their defaults: these are left out, in the container and in its variables and mounts.
Every other member stands as it did, and none is added.
-/

namespace BuildScheduler

open Json (Members Decoder)
open Json.Members (tidied written)
open Json.Record (readPart)

/-! ## Without defaults -/

def EnvVar.isDefault (name : String) (value : Json) : Bool := name = "value" ∧ value = .null

def EnvVar.withoutDefaults : Json → Json := Json.tidy isDefault fun _ value => value

def VolumeMount.isDefault (name : String) (value : Json) : Bool :=
  name = "readOnly" ∧ value = .bool false

def VolumeMount.withoutDefaults : Json → Json := Json.tidy isDefault fun _ value => value

namespace Container

/-- An image that is null, and a list of variables or mounts that is empty. -/
def isDefault (name : String) (value : Json) : Bool :=
  (name = "image" ∧ value = .null) ∨ ((name = "env" ∨ name = "volumeMounts") ∧ value = .arr [])

def memberWithoutDefaults (name : String) (value : Json) : Json :=
  if name = "env" then Json.mapItems EnvVar.withoutDefaults value
  else if name = "volumeMounts" then Json.mapItems VolumeMount.withoutDefaults value
  else value

/-- A container without its defaults, and its variables and mounts without theirs. -/
def withoutDefaults : Json → Json := Json.tidy isDefault memberWithoutDefaults

end Container

/-! ## Parts -/

/-- An optional text that is null is left out. -/
theorem tidied_string (drop : String → Json → Bool) (change : String → Json → Json) (name : String)
    (hd : ∀ value, drop name value = true ↔ value = .null) (hc : ∀ value, change name value = value)
    {value : Option Json} {found : Option String}
    (h : readPart (Json.Decode.option Json.Decode.string) none value = .ok found) :
    tidied drop change name value = found.map Json.str ∧
      readPart (Json.Decode.option Json.Decode.string) none (tidied drop change name value) =
        .ok found := by
  cases value with
  | none =>
      cases h
      exact ⟨rfl, rfl⟩
  | some value =>
      obtain ⟨rfl, rfl⟩ | ⟨hne, text, ht, rfl⟩ := Json.Decode.option_ok_iff.1 h
      · rw [Members.tidied_dropped ((hd _).2 rfl)]
        exact ⟨rfl, rfl⟩
      · rw [Members.tidied_kept (Bool.eq_false_iff.2 fun ht => hne ((hd _).1 ht)), hc]
        exact ⟨congrArg some (Json.Decode.string_ok_iff.1 ht), h⟩

/-- A flag that is false is left out. -/
theorem tidied_bool (drop : String → Json → Bool) (change : String → Json → Json) (name : String)
    (hd : ∀ value, drop name value = true ↔ value = .bool false)
    (hc : ∀ value, change name value = value) {value : Option Json} {found : Bool}
    (h : readPart Json.Decode.bool false value = .ok found) :
    tidied drop change name value = (if found then some (.bool true) else none) ∧
      readPart Json.Decode.bool false (tidied drop change name value) = .ok found := by
  cases value with
  | none =>
      cases h
      exact ⟨rfl, rfl⟩
  | some value =>
      obtain rfl := Json.Decode.bool_ok_iff.1 h
      cases found with
      | false =>
          rw [Members.tidied_dropped ((hd _).2 rfl)]
          exact ⟨rfl, rfl⟩
      | true =>
          have hkept : drop name (.bool true) = false := by simp [← Bool.not_eq_true, hd]
          rw [Members.tidied_kept hkept, hc]
          exact ⟨rfl, h⟩

/-- A list that is empty is left out; of another every item is written as it was tidied. -/
theorem tidied_list {α : Type} {decode : Decoder α} {toJson : α → Json} {tidyItem : Json → Json}
    (drop : String → Json → Bool) (change : String → Json → Json) (name : String)
    (hitem : ∀ {item}, item.Canonical → ∀ {content}, decode item.toNode = .ok content →
      toJson content = tidyItem item ∧ decode (tidyItem item).toNode = .ok content)
    (hd : ∀ value, drop name value = true ↔ value = .arr [])
    (hc : ∀ value, change name value = Json.mapItems tidyItem value)
    {value : Option Json} (hv : ∀ held ∈ value, held.Canonical) {found : List α}
    (h : readPart (Json.Decode.list decode) [] value = .ok found) :
    tidied drop change name value =
        (if found.isEmpty then none else some (.arr (found.map toJson))) ∧
      readPart (Json.Decode.list decode) [] (tidied drop change name value) = .ok found := by
  cases value with
  | none =>
      cases h
      exact ⟨rfl, rfl⟩
  | some value =>
      obtain ⟨items, rfl, hitems⟩ := Json.Decode.list_ok_iff.1 h
      have hall := ((List.forall₂_and_left items found).2
        ⟨Json.canonical_arr.1 (hv _ rfl), hitems⟩).imp
          fun _ _ hboth => hitem hboth.1 hboth.2
      have hwritten : found.map toJson = items.map tidyItem := by
        rw [← List.forall₂_eq_eq_eq, List.forall₂_map_left_iff, List.forall₂_map_right_iff]
        exact (hall.imp fun _ _ hboth => hboth.1).flip
      have hread : List.Forall₂ (fun item content => decode item.toNode = .ok content)
          (items.map tidyItem) found :=
        List.forall₂_map_left_iff.2 (hall.imp fun _ _ hboth => hboth.2)
      cases hitems with
      | nil =>
          rw [Members.tidied_dropped ((hd _).2 rfl)]
          exact ⟨rfl, rfl⟩
      | @cons item content rest more _ _ =>
          have hkept : drop name (.arr (item :: rest)) = false := by simp [← Bool.not_eq_true, hd]
          rw [Members.tidied_kept hkept, hc, Json.mapItems, ← hwritten]
          exact ⟨rfl, Json.Decode.list_ok_iff.2 ⟨_, rfl, hwritten ▸ hread⟩⟩

/-! ## Variables -/

namespace EnvVar

theorem toJson_eq (var : EnvVar) :
    var.toJson = Json.object
      (written [("name", some (.str var.name)), ("value", var.value.map .str)] ++ var.extra) := by
  rw [toJson]
  cases var.value <;> rfl

theorem knows_iff (name : String) : record.Knows name ↔ name ∈ ["name", "value"] := by
  simp [Json.Record.Knows, record, eq_comm]

theorem passes_through {value : Json} (hv : value.Canonical) {var : EnvVar}
    (h : decode value.toNode = .ok var) :
    var.toJson = withoutDefaults value ∧ decode (withoutDefaults value).toNode = .ok var := by
  obtain ⟨members, rfl⟩ := Json.Record.exists_obj_of_decode rfl h
  obtain ⟨hs, hc⟩ := Json.canonical_obj.1 hv
  have hfrom := (decode_iff hs hc).1 h
  have hname : tidied isDefault (fun _ value => value) "name" (members.lookup "name") =
      some (.str var.name) := by
    rw [hfrom.name]
    exact Members.tidied_kept (by simp [isDefault])
  obtain ⟨hvalue, hread⟩ := tidied_string isDefault (fun _ value => value) "value"
    (by simp [isDefault]) (fun _ => rfl) hfrom.value
  have hrest : ∀ name value, ¬ record.Knows name → isDefault name value = false ∧ value = value := by
    intro name value hn
    rw [knows_iff] at hn
    simp_all [isDefault]
  constructor
  · rw [toJson_eq, hfrom.extra]
    exact Json.object_written hs (by simp) knows_iff (by simp [hname, hvalue]) hrest
  · refine (decode_iff hs.tidy (Members.canonical_tidy hc fun _ _ hm => hm)).2 ⟨?_, ?_, ?_⟩
    · rw [Members.lookup_tidy hs, hname]
    · rw [Members.lookup_tidy hs, hread]
    · rw [hfrom.extra, Members.filter_tidy fun name => ¬ record.Knows name]
      exact fun name value hn => hrest name value (by simpa using hn)

end EnvVar

/-! ## Mounts -/

namespace VolumeMount

theorem toJson_eq (mount : VolumeMount) :
    mount.toJson = Json.object
      (written [("name", some (.str mount.name)), ("mountPath", some (.str mount.mountPath)),
        ("readOnly", if mount.readOnly then some (.bool true) else none)] ++ mount.extra) := by
  rw [toJson]
  cases mount.readOnly <;> rfl

theorem knows_iff (name : String) :
    record.Knows name ↔ name ∈ ["name", "mountPath", "readOnly"] := by
  simp [Json.Record.Knows, record, eq_comm]

theorem passes_through {value : Json} (hv : value.Canonical) {mount : VolumeMount}
    (h : decode value.toNode = .ok mount) :
    mount.toJson = withoutDefaults value ∧ decode (withoutDefaults value).toNode = .ok mount := by
  obtain ⟨members, rfl⟩ := Json.Record.exists_obj_of_decode rfl h
  obtain ⟨hs, hc⟩ := Json.canonical_obj.1 hv
  have hfrom := (decode_iff hs hc).1 h
  have hname : tidied isDefault (fun _ value => value) "name" (members.lookup "name") =
      some (.str mount.name) := by
    rw [hfrom.name]
    exact Members.tidied_kept (by simp [isDefault])
  have hpath : tidied isDefault (fun _ value => value) "mountPath" (members.lookup "mountPath") =
      some (.str mount.mountPath) := by
    rw [hfrom.mountPath]
    exact Members.tidied_kept (by simp [isDefault])
  obtain ⟨hflag, hread⟩ := tidied_bool isDefault (fun _ value => value) "readOnly"
    (by simp [isDefault]) (fun _ => rfl) hfrom.readOnly
  have hrest : ∀ name value, ¬ record.Knows name → isDefault name value = false ∧ value = value := by
    intro name value hn
    rw [knows_iff] at hn
    simp_all [isDefault]
  constructor
  · rw [toJson_eq, hfrom.extra]
    exact Json.object_written hs (by simp) knows_iff (by simp [hname, hpath, hflag]) hrest
  · refine (decode_iff hs.tidy (Members.canonical_tidy hc fun _ _ hm => hm)).2 ⟨?_, ?_, ?_, ?_⟩
    · rw [Members.lookup_tidy hs, hname]
    · rw [Members.lookup_tidy hs, hpath]
    · rw [Members.lookup_tidy hs, hread]
    · rw [hfrom.extra, Members.filter_tidy fun name => ¬ record.Knows name]
      exact fun name value hn => hrest name value (by simpa using hn)

end VolumeMount

/-! ## Containers -/

namespace Container

theorem toJson_eq (container : Container) :
    container.toJson = Json.object
      (written [("name", some (.str container.name)), ("image", container.image.map .str),
        ("env", if container.env.isEmpty then none
          else some (.arr (container.env.map EnvVar.toJson))),
        ("volumeMounts", if container.mounts.isEmpty then none
          else some (.arr (container.mounts.map VolumeMount.toJson)))] ++ container.extra) := by
  rw [toJson]
  congr 1
  cases container.image <;> cases container.env.isEmpty <;> cases container.mounts.isEmpty <;> rfl

theorem knows_iff (name : String) :
    record.Knows name ↔ name ∈ ["name", "image", "env", "volumeMounts"] := by
  simp [Json.Record.Knows, record, eq_comm]

theorem canonical_memberWithoutDefaults (name : String) (value : Json) (h : value.Canonical) :
    (memberWithoutDefaults name value).Canonical := by
  rw [memberWithoutDefaults]
  split
  · exact h.mapItems fun _ hi => hi.tidy fun _ _ hm => hm
  · split
    · exact h.mapItems fun _ hi => hi.tidy fun _ _ hm => hm
    · exact h

theorem passes_through {value : Json} (hv : value.Canonical) {container : Container}
    (h : decode value.toNode = .ok container) :
    container.toJson = withoutDefaults value ∧
      decode (withoutDefaults value).toNode = .ok container := by
  obtain ⟨members, rfl⟩ := Json.Record.exists_obj_of_decode rfl h
  obtain ⟨hs, hc⟩ := Json.canonical_obj.1 hv
  have hfrom := (decode_iff hs hc).1 h
  have hheld : ∀ name, ∀ held ∈ members.lookup name, held.Canonical :=
    fun name held hl => hc _ (Json.mem_of_lookup hl)
  have hname : tidied isDefault memberWithoutDefaults "name" (members.lookup "name") =
      some (.str container.name) := by
    rw [hfrom.name]
    exact Members.tidied_kept (by simp [isDefault])
  obtain ⟨himage, hreadImage⟩ := tidied_string isDefault memberWithoutDefaults "image"
    (by simp [isDefault]) (by simp [memberWithoutDefaults]) hfrom.image
  obtain ⟨henv, hreadEnv⟩ := tidied_list isDefault memberWithoutDefaults "env"
    EnvVar.passes_through (by simp [isDefault]) (fun _ => rfl) (hheld _) hfrom.env
  obtain ⟨hmounts, hreadMounts⟩ := tidied_list isDefault memberWithoutDefaults "volumeMounts"
    VolumeMount.passes_through (by simp [isDefault]) (fun _ => rfl) (hheld _) hfrom.mounts
  have hrest : ∀ name value, ¬ record.Knows name →
      isDefault name value = false ∧ memberWithoutDefaults name value = value := by
    intro name value hn
    rw [knows_iff] at hn
    simp_all [isDefault, memberWithoutDefaults]
  constructor
  · rw [toJson_eq, hfrom.extra]
    exact Json.object_written hs (by simp) knows_iff (by simp [hname, himage, henv, hmounts]) hrest
  · refine (decode_iff hs.tidy (Members.canonical_tidy hc fun member _ =>
      canonical_memberWithoutDefaults member.1 member.2)).2 ⟨?_, ?_, ?_, ?_, ?_⟩
    · rw [Members.lookup_tidy hs, hname]
    · rw [Members.lookup_tidy hs, hreadImage]
    · rw [Members.lookup_tidy hs, hreadEnv]
    · rw [Members.lookup_tidy hs, hreadMounts]
    · rw [hfrom.extra, Members.filter_tidy fun name => ¬ record.Knows name]
      exact fun name value hn => hrest name value (by simpa using hn)

/-- A container that was read from a value is written as that value without its defaults, and what
is written is read as the same container. -/
theorem toJson_of_decode {value : Json} (hv : value.Canonical) {container : Container}
    (h : decode value.toNode = .ok container) :
    container.toJson = withoutDefaults value ∧ decode container.toJson.toNode = .ok container := by
  obtain ⟨hwritten, hread⟩ := passes_through hv h
  exact ⟨hwritten, hwritten ▸ hread⟩

def agentSidecar : Json := .obj [
  ("env", .arr [
    .obj [("name", .str "TOKEN"), ("value", .null), ("valueFrom", .obj [("fieldRef", .null)])],
    .obj [("Name", .int 1), ("name", .str "LEVEL"), ("value", .str "")]]),
  ("envFrom", .arr []),
  ("image", .null),
  ("name", .str "agent"),
  ("volumeMounts", .arr [
    .obj [("mountPath", .str "/work"), ("name", .str "work"), ("readOnly", .bool false),
      ("subPath", .str "a")]])]

theorem agentSidecar_canonical : agentSidecar.Canonical := by
  simp only [agentSidecar, Json.Canonical, Json.CanonicalItems, Json.CanonicalMembers]
  decide

theorem agentSidecar_passes_through :
    agentSidecar.Canonical ∧ ∃ container, decode agentSidecar.toNode = .ok container ∧
      container.toJson = withoutDefaults agentSidecar ∧
      decode container.toJson.toNode = .ok container := by
  have hd : ∃ container, decode agentSidecar.toNode = .ok container := ⟨_, rfl⟩
  obtain ⟨container, h⟩ := hd
  exact ⟨agentSidecar_canonical, container, h, toJson_of_decode agentSidecar_canonical h⟩

end Container

end BuildScheduler
