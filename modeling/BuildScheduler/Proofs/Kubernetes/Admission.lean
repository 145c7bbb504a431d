import BuildScheduler.Proofs.Config.Accepted
import BuildScheduler.Proofs.Json.Updates
import BuildScheduler.Proofs.Kubernetes.Conversion
import BuildScheduler.Proofs.Launch.Twins

/-!
# Which build pods are admitted

A sidecar is checked against what the scheduler looks at of a container when a configuration is
read; its other members are passed through and meet the schema of the API only when a pod is
submitted. So a build pod of an accepted project converts just if these members fit the schema, and
its containers have different names just if its sidecars do.
-/

namespace BuildScheduler

namespace Kubernetes

open Schema (readValue valueAt)
open Json (Members)
open Json.Members (written)

namespace Schema

/-! ## Members that fit -/

def fields : Schema → List (String × Bool × Schema)
  | .object _ fields => fields
  | _ => []

/-- Every member that a field names can be read as that field; the others are dropped anyway. -/
def Admits (schema : Schema) (members : Members) : Prop :=
  ∀ name, ∃ held, valueAt schema.fields name (members.lookup name) = .ok held

theorem exists_valueAt_none (fields : List (String × Bool × Schema)) (name : String) :
    ∃ held, valueAt fields name none = .ok held := by
  unfold valueAt
  cases fields.lookup name with
  | none => exact ⟨_, rfl⟩
  | some field => exact ⟨_, rfl⟩

theorem exists_valueAt_some_iff {fields : List (String × Bool × Schema)} {name : String}
    {required : Bool} {schema : Schema} (hl : fields.lookup name = some (required, schema))
    {value : Json} (hn : value ≠ .null) :
    (∃ held, valueAt fields name (some value) = .ok held) ↔
      ∃ json, readValue schema value = .ok json := by
  rw [valueAt_eq hl]
  simp only [fieldValue_some_iff, hn, and_false, if_false]
  constructor
  · intro h
    obtain ⟨held, json, hj, -⟩ := h
    exact ⟨json, hj⟩
  · intro h
    obtain ⟨json, hj⟩ := h
    exact ⟨some json, json, hj, rfl⟩

theorem exists_read_object_iff {schema : Schema} {title : String}
    (ho : schema = .object title schema.fields) (hf : (schema.fields.map (·.1)).Nodup)
    {members : Members} (hs : members.Sorted) :
    (∃ json, readValue schema (.obj members) = .ok json) ↔ schema.Admits members := by
  unfold Admits
  generalize schema.fields = fields at ho hf
  subst ho
  constructor
  · intro h name
    obtain ⟨json, hj⟩ := h
    obtain ⟨out, -, -, hout⟩ := (read_obj_iff hf hs.nodup).1 hj
    exact ⟨_, hout name⟩
  · exact fun h => exists_read_obj hs.nodup title h

theorem exists_read_list_iff {item : Schema} {items : List Json} :
    (∃ json, readValue (.list item) (.arr items) = .ok json) ↔
      ∀ value ∈ items, ∃ json, readValue item value = .ok json := by
  rw [← exists_mapM_ok_iff]
  unfold readValue
  simp only [read_arr_iff, mapM_ok_iff]
  constructor
  · intro h
    obtain ⟨-, values, hv, -⟩ := h
    exact ⟨values, hv⟩
  · intro h
    obtain ⟨values, hv⟩ := h
    exact ⟨_, values, hv, rfl⟩

/-- A record that is written with what it keeps of other members fits if its parts and these
members do. -/
theorem admits_written_iff {schema : Schema} {parts : List (String × Option Json)}
    {extra : Members} (hn : (parts.map (·.1)).Nodup) (hs : extra.Sorted)
    (hd : ∀ name ∈ parts.map (·.1), extra.lookup name = none) :
    schema.Admits (Members.ofList (written parts ++ extra)) ↔
      (∀ part ∈ parts, ∃ held, valueAt schema.fields part.1 part.2 = .ok held) ∧
        schema.Admits extra := by
  have hlookup := Members.lookup_ofList_written hn hs hd
  constructor
  · intro h
    refine ⟨fun part hm => ?_, fun name => ?_⟩
    · have hpart := h part.1
      rw [hlookup, Json.lookup_of_mem hn hm,
        hd part.1 (List.mem_map_of_mem (f := (·.1)) hm), Option.or_none] at hpart
      exact hpart
    · by_cases hm : name ∈ parts.map (·.1)
      · rw [hd name hm]
        exact exists_valueAt_none _ name
      · have hextra := h name
        rw [hlookup, Json.lookup_eq_none_iff.2 hm] at hextra
        exact hextra
  · intro h name
    obtain ⟨hparts, hextra⟩ := h
    rw [hlookup]
    by_cases hm : name ∈ parts.map (·.1)
    · obtain ⟨part, hp, rfl⟩ := List.mem_map.1 hm
      rw [Json.lookup_of_mem hn hp, hd _ hm, Option.or_none]
      exact hparts part hp
    · rw [Json.lookup_eq_none_iff.2 hm]
      exact hextra name

/-- A text fits a field of texts. -/
theorem exists_valueAt_string {fields : List (String × Bool × Schema)} {name : String}
    {required : Bool} (hl : fields.lookup name = some (required, .string)) (text : Option String) :
    ∃ held, valueAt fields name (text.map Json.str) = .ok held := by
  cases text with
  | none => exact exists_valueAt_none fields name
  | some text => exact (exists_valueAt_some_iff hl (by simp)).2 ⟨.str text, rfl⟩

/-- A list of parts that is written unless it is empty. -/
theorem exists_valueAt_list_iff {fields : List (String × Bool × Schema)} {name : String}
    {required : Bool} {item : Schema} (hl : fields.lookup name = some (required, .list item))
    (toJson : α → Json) (parts : List α) :
    (∃ held, valueAt fields name
      (if parts.isEmpty then none else some (.arr (parts.map toJson))) = .ok held) ↔
      ∀ part ∈ parts, ∃ json, readValue item (toJson part) = .ok json := by
  cases parts with
  | nil => exact iff_of_true (exists_valueAt_none fields name) (List.forall_mem_nil _)
  | cons part rest =>
      refine (exists_valueAt_some_iff hl (by simp)).trans ?_
      rw [exists_read_list_iff, List.forall_mem_map]

/-- A record is read if its parts fit, and what it passes through does. -/
theorem exists_read_written_iff {record : Json.Record α} {schema : Schema} {title : String}
    {parts : List (String × Option Json)} {extra : Members} (hp : record.Passes extra)
    (hk : ∀ name, record.Knows name ↔ name ∈ parts.map (·.1))
    (ho : schema = .object title schema.fields) (hf : (schema.fields.map (·.1)).Nodup)
    (hn : (parts.map (·.1)).Nodup) :
    (∃ json, readValue schema (Json.object (written parts ++ extra)) = .ok json) ↔
      (∀ part ∈ parts, ∃ held, valueAt schema.fields part.1 part.2 = .ok held) ∧
        schema.Admits extra := by
  rw [Json.object, exists_read_object_iff ho hf (Members.sorted_ofList _)]
  exact admits_written_iff hn hp.sorted fun name hm => hp.lookup name ((hk name).2 hm)

end Schema

/-! ## Containers that fit -/

/-- What a container passes through fits the schema of the API, and so it is for its variables and
mounts. -/
structure Fits (container : Container) : Prop where
  own : Schema.container.Admits container.extra
  env : ∀ var ∈ container.env, Schema.envVar.Admits var.extra
  mounts : ∀ mount ∈ container.mounts, Schema.volumeMount.Admits mount.extra

/-- What a container passes through are members that the scheduler does not look at. -/
structure PassesThrough (container : Container) : Prop where
  own : Container.record.Passes container.extra
  env : ∀ var ∈ container.env, EnvVar.record.Passes var.extra
  mounts : ∀ mount ∈ container.mounts, VolumeMount.record.Passes mount.extra

theorem exists_read_envVar_iff {var : EnvVar} (h : EnvVar.record.Passes var.extra) :
    (∃ json, readValue Schema.envVar var.toJson = .ok json) ↔ Schema.envVar.Admits var.extra := by
  rw [EnvVar.toJson_eq]
  refine Iff.trans
    (Schema.exists_read_written_iff h EnvVar.knows_iff rfl (by decide) (by simp)) ?_
  refine and_iff_right ?_
  rw [List.forall_mem_cons, List.forall_mem_singleton]
  exact ⟨Schema.exists_valueAt_string rfl (some var.name),
    Schema.exists_valueAt_string rfl var.value⟩

theorem exists_read_volumeMount_iff {mount : VolumeMount}
    (h : VolumeMount.record.Passes mount.extra) :
    (∃ json, readValue Schema.volumeMount mount.toJson = .ok json) ↔
      Schema.volumeMount.Admits mount.extra := by
  have hflag : ∃ held, valueAt Schema.volumeMount.fields "readOnly"
      (if mount.readOnly then some (.bool true) else none) = .ok held := by
    cases mount.readOnly with
    | true => exact (Schema.exists_valueAt_some_iff rfl (by simp)).2 ⟨.bool true, rfl⟩
    | false => exact Schema.exists_valueAt_none _ _
  rw [VolumeMount.toJson_eq]
  refine Iff.trans
    (Schema.exists_read_written_iff h VolumeMount.knows_iff rfl (by decide) (by simp)) ?_
  refine and_iff_right ?_
  rw [List.forall_mem_cons, List.forall_mem_cons, List.forall_mem_singleton]
  exact ⟨Schema.exists_valueAt_string rfl (some mount.name),
    Schema.exists_valueAt_string rfl (some mount.mountPath), hflag⟩

/-- A container converts if what it passes through fits. -/
theorem exists_apiContainer_iff {container : Container} (h : PassesThrough container) :
    (∃ converted, apiContainer container = .ok converted) ↔ Fits container := by
  have henv : (∃ held, valueAt Schema.container.fields "env" (if container.env.isEmpty then none
      else some (.arr (container.env.map EnvVar.toJson))) = .ok held) ↔
        ∀ var ∈ container.env, Schema.envVar.Admits var.extra := by
    rw [Schema.exists_valueAt_list_iff rfl]
    exact forall₂_congr fun var hm => exists_read_envVar_iff (h.env var hm)
  have hmounts : (∃ held, valueAt Schema.container.fields "volumeMounts"
      (if container.mounts.isEmpty then none
      else some (.arr (container.mounts.map VolumeMount.toJson))) = .ok held) ↔
        ∀ mount ∈ container.mounts, Schema.volumeMount.Admits mount.extra := by
    rw [Schema.exists_valueAt_list_iff rfl]
    exact forall₂_congr fun mount hm => exists_read_volumeMount_iff (h.mounts mount hm)
  have hname := Schema.exists_valueAt_string
    (show Schema.container.fields.lookup "name" = some (true, .string) from rfl)
    (some container.name)
  have himage := Schema.exists_valueAt_string
    (show Schema.container.fields.lookup "image" = some (false, .string) from rfl)
    container.image
  simp only [apiContainer_ok_iff]
  rw [Container.toJson_eq]
  refine Iff.trans
    (Schema.exists_read_written_iff h.own Container.knows_iff rfl (by decide) (by simp)) ?_
  simp only [List.forall_mem_cons, List.not_mem_nil, false_implies, implies_true, and_true]
  rw [henv, hmounts]
  constructor
  · intro hall
    obtain ⟨⟨-, -, hvars, hmounted⟩, hown⟩ := hall
    exact ⟨hown, hvars, hmounted⟩
  · intro hfits
    exact ⟨⟨hname, himage, hfits.env, hfits.mounts⟩, hfits.own⟩

/-- What was read of a container passes through what the scheduler does not look at. -/
theorem passesThrough_of_decode {node : Json.Node} {container : Container}
    (h : Container.decode node = .ok container) : PassesThrough container := by
  have hkept : ∀ other, Container.record.unknown = .kept other → other = Container.keep :=
    fun other he => (Json.Unknown.kept.inj he).symm
  constructor
  case own => exact Container.hasExtra.passes_of_decode rfl rfl h
  case env =>
    refine Container.hasEnv.holds_of_decode
      (P := fun vars => ∀ var ∈ vars, EnvVar.record.Passes var.extra) hkept nofun ?_ h
    intro node vars hr
    exact Json.Decode.keeps_of_list
      (fun _ _ hd => EnvVar.hasExtra.passes_of_decode rfl rfl hd) hr
  case mounts =>
    refine Container.hasMounts.holds_of_decode
      (P := fun mounts => ∀ mount ∈ mounts, VolumeMount.record.Passes mount.extra) hkept nofun
      ?_ h
    intro node mounts hr
    exact Json.Decode.keeps_of_list
      (fun _ _ hd => VolumeMount.hasExtra.passes_of_decode rfl rfl hd) hr

theorem passesThrough_of_ofText {text : String} {container : Container}
    (h : Container.ofText text = .ok container) : PassesThrough container := by
  unfold Container.ofText Json.readText Json.Document.read at h
  obtain ⟨found, hd, h⟩ := bind_ok_iff.1 h
  split at h
  · cases h
  · cases h
    exact passesThrough_of_decode hd

theorem admits_nil (schema : Schema) : schema.Admits [] :=
  fun name => Schema.exists_valueAt_none _ name

/-! ## Build pods -/

section BuildPods

open PodTemplate (buildContainer sidecars)

/-- The build container passes nothing through. -/
theorem fits_buildContainer (event : BuildEvent) (id : BuildId) (project : Project) :
    PassesThrough (buildContainer event id project) ∧ Fits (buildContainer event id project) := by
  have hvars : ∀ var ∈ (buildContainer event id project).env, var.extra = [] := by
    simp [buildContainer, EnvVar.literal]
  have hmounts : ∀ mount ∈ (buildContainer event id project).mounts, mount.extra = [] := by
    simp [buildContainer]
  constructor
  · exact ⟨Container.record.passes_nil, fun var hm => hvars var hm ▸ EnvVar.record.passes_nil,
      fun mount hm => hmounts mount hm ▸ VolumeMount.record.passes_nil⟩
  · exact ⟨admits_nil _, fun var hm => hvars var hm ▸ admits_nil _,
      fun mount hm => hmounts mount hm ▸ admits_nil _⟩

/-- The sidecars of a build pod are those that can be read and have another name than the build
container. -/
theorem mem_sidecars_iff {project : Project} {container : Container} :
    container ∈ sidecars project ↔ ∃ text ∈ project.sidecars,
      Container.ofText text = .ok container ∧ container.name ≠ buildContainerName := by
  simp only [sidecars, List.mem_filterMap, PodTemplate.sidecar?_eq_some_iff]

theorem passesThrough_of_mem_sidecars {project : Project} {container : Container}
    (h : container ∈ sidecars project) : PassesThrough container := by
  obtain ⟨text, -, ht, -⟩ := mem_sidecars_iff.1 h
  exact passesThrough_of_ofText ht

/-- A build pod converts if its sidecars do. -/
theorem exists_toPod_buildPod_iff (template : PodTemplate) (event : BuildEvent) (id : BuildId)
    (project : Project) (nameSpace : String) :
    (∃ pod, toPod (template.buildPod event id project) nameSpace = .ok pod) ↔
      ∀ sidecar ∈ sidecars project, ∃ converted, apiContainer sidecar = .ok converted := by
  obtain ⟨hpasses, hfits⟩ := fits_buildContainer event id project
  rw [exists_toPod_iff, PodTemplate.buildPod, List.forall_mem_cons]
  exact and_iff_right ((exists_apiContainer_iff hpasses).2 hfits)

/-! ## Names -/

def containerNames (pod : Json) : List (Option String) :=
  (items ((pod.member "spec").member "containers")).map fun container =>
    text? (container.member "name")

/-- A container keeps its name. -/
theorem name_of_apiContainer {container : Container} (hp : PassesThrough container)
    {converted : Json} (h : apiContainer container = .ok converted) :
    text? (converted.member "name") = some container.name := by
  have hunknown : ∀ name ∈ ["name", "image", "env", "volumeMounts"],
      container.extra.lookup name = none :=
    fun name hm => hp.own.lookup name ((Container.knows_iff name).2 hm)
  rw [apiContainer_ok_iff, Container.toJson_eq, Json.object] at h
  obtain ⟨out, rfl, -, hout⟩ :=
    (Schema.read_obj_iff (by decide) (Members.sorted_ofList _).nodup).1 h
  have hname := hout "name"
  rw [Members.lookup_ofList_written (by simp) hp.own.sorted (by exact hunknown),
    hunknown "name" (by simp)] at hname
  have hkept : out.lookup "name" = some (.str container.name) := (Except.ok.inj hname).symm
  rw [Json.member, hkept]
  rfl

theorem names_of_apiContainers {containers : List Container} {converted : List Json}
    (hp : ∀ container ∈ containers, PassesThrough container)
    (h : List.Forall₂ (fun container one => apiContainer container = .ok one) containers
      converted) :
    converted.map (fun one => text? (one.member "name")) =
      (containers.map (·.name)).map some := by
  induction h with
  | nil => rfl
  | cons hfirst _ ih =>
      obtain ⟨hhead, hrest⟩ := List.forall_mem_cons.1 hp
      rw [List.map_cons, List.map_cons, List.map_cons, name_of_apiContainer hhead hfirst, ih hrest]

theorem containerNames_of_toPod {template : PodTemplate} {event : BuildEvent} {id : BuildId}
    {project : Project} {nameSpace : String} {pod : Json}
    (h : toPod (template.buildPod event id project) nameSpace = .ok pod) :
    containerNames pod = (buildContainerName :: (sidecars project).map (·.name)).map some := by
  rw [toPod_eq] at h
  obtain ⟨converted, hc, rfl⟩ := map_ok_iff.1 h
  have hpasses : ∀ container ∈ (template.buildPod event id project).containers,
      PassesThrough container :=
    List.forall_mem_cons.2 ⟨(fits_buildContainer event id project).1,
      fun _ hm => passesThrough_of_mem_sidecars hm⟩
  rw [containerNames, (isPodOf_podOf _ nameSpace converted).containers]
  exact names_of_apiContainers hpasses (mapM_ok_iff.1 hc)

/-- If every text of a project can be read, its sidecars are what was read, but for those that
take the name of the build container. -/
theorem sidecars_eq_filter {project : Project} {containers : List Container}
    (h : List.Forall₂ (fun text container => Container.ofText text = .ok container)
      project.sidecars containers) :
    sidecars project = containers.filter fun container => container.name ≠ buildContainerName := by
  unfold sidecars
  generalize project.sidecars = texts at h
  induction h with
  | nil => rfl
  | @cons text container texts containers hread _ ih =>
      have hfirst : PodTemplate.sidecar? text =
          if container.name = buildContainerName then none else some container := by
        rw [PodTemplate.sidecar?, hread]
      by_cases hn : container.name = buildContainerName
      · rw [List.filterMap_cons_none (by rw [hfirst, if_pos hn]), ih,
          List.filter_cons_of_neg (by simpa using hn)]
      · rw [List.filterMap_cons_some (by rw [hfirst, if_neg hn]), ih,
          List.filter_cons_of_pos (by simpa using hn)]

end BuildPods

end Kubernetes

namespace Config

open Kubernetes

/-- The builds of an accepted project convert just if its sidecars pass through only what fits, and
the containers then have different names just if the sidecars do. A sidecar with the name of the
build container does not count, as it is left out. -/
theorem builds_convert_iff {text : String} {config : Config} (h : ofText text = .ok config)
    {project : Project} (hp : project ∈ config.projects) :
    ∃ containers : List Container,
      List.Forall₂ (fun fragment container => Container.ofText fragment = .ok container)
        project.sidecars containers ∧
      ∀ (template : PodTemplate) (event : BuildEvent) (id : BuildId) (nameSpace : String),
        ((∃ pod, toPod (template.buildPod event id project) nameSpace = .ok pod) ↔
          ∀ container ∈ containers, container.name ≠ buildContainerName → Fits container) ∧
        ∀ pod, toPod (template.buildPod event id project) nameSpace = .ok pod →
          ((containerNames pod).Nodup ↔
            ((containers.map (·.name)).filter (· ≠ buildContainerName)).Nodup) := by
  obtain ⟨document, -, hd⟩ := ofText_ok_iff.1 h
  have hsound := sound_of_ofDocument hd (keyed_of_ofText h)
  obtain ⟨containers, hread⟩ := exists_mapM_ok_iff.2 (hsound.sidecars project hp)
  have hread := mapM_ok_iff.1 hread
  have hkept := sidecars_eq_filter hread
  refine ⟨containers, hread, fun template event id nameSpace => ⟨?_, fun pod hpod => ?_⟩⟩
  · have hfits : (∀ sidecar ∈ PodTemplate.sidecars project,
        ∃ converted, apiContainer sidecar = .ok converted) ↔
          ∀ sidecar ∈ PodTemplate.sidecars project, Fits sidecar :=
      forall₂_congr fun sidecar hm => exists_apiContainer_iff (passesThrough_of_mem_sidecars hm)
    rw [exists_toPod_buildPod_iff, hfits, hkept]
    simp only [List.mem_filter, decide_eq_true_eq, and_imp]
  · have hbuild : buildContainerName ∉ (PodTemplate.sidecars project).map (·.name) := by
      intro hm
      obtain ⟨sidecar, hs, hn⟩ := List.mem_map.1 hm
      exact PodTemplate.name_ne_of_mem_sidecars hs hn
    have hnames : (PodTemplate.sidecars project).map (·.name) =
        (containers.map (·.name)).filter (· ≠ buildContainerName) := by
      rw [hkept, List.filter_map]
      rfl
    rw [containerNames_of_toPod hpod, List.nodup_map_iff (Option.some_injective String),
      List.nodup_cons, hnames]
    exact and_iff_right (hnames ▸ hbuild)

def textOfSidecars (fragments : List String) : String :=
  "project \"a/b\" image=\"c\" \x7b " ++
    String.join (fragments.map fun fragment => "sidecar #\"" ++ fragment ++ "\"#; ") ++ "\x7d"

/-- A check of some project of an accepted text. -/
theorem exists_project_of_ofText (text : String) (check : Project → Bool)
    (h : (ofText text).toOption.any (·.projects.any check) = true) :
    ∃ config, ofText text = .ok config ∧ ∃ project ∈ config.projects, check project = true := by
  obtain ⟨config, hc, hany⟩ := exists_ok_of_any (ofText text) (·.projects.any check) h
  exact ⟨config, hc, List.any_eq_true.1 hany⟩

/-- Whether the API understands every sidecar of a project. -/
def sidecarsConvert (project : Project) : Bool :=
  (PodTemplate.sidecars project).all fun sidecar => Except.isOk (apiContainer sidecar)

theorem exists_toPod_iff_sidecarsConvert (template : PodTemplate) (event : BuildEvent)
    (id : BuildId) (project : Project) (nameSpace : String) :
    (∃ pod, toPod (template.buildPod event id project) nameSpace = .ok pod) ↔
      sidecarsConvert project = true := by
  have hok : ∀ container, Except.isOk (apiContainer container) = true ↔
      ∃ converted, apiContainer container = .ok converted := by
    intro container
    cases apiContainer container <;> simp [Except.isOk, Except.toBool]
  rw [exists_toPod_buildPod_iff, sidecarsConvert, List.all_eq_true]
  exact forall₂_congr fun sidecar _ => (hok sidecar).symm

theorem builds_convert_with_terminal :
    ∃ config, ofText (textOfSidecars ["\x7b\"name\":\"d\",\"tty\":true\x7d"]) = .ok config ∧
      ∃ project ∈ config.projects, ∃ container : Container,
        Container.ofText "\x7b\"name\":\"d\",\"tty\":true\x7d" = .ok container ∧
        (container.name ≠ buildContainerName → Fits container) ∧
        ∀ (template : PodTemplate) (event : BuildEvent) (id : BuildId) (nameSpace : String),
          ∃ pod, toPod (template.buildPod event id project) nameSpace = .ok pod ∧
            (containerNames pod).Nodup := by
  obtain ⟨config, hc, project, hp, hcheck⟩ := exists_project_of_ofText
    (textOfSidecars ["\x7b\"name\":\"d\",\"tty\":true\x7d"])
    (fun project => sidecarsConvert project &&
      project.sidecars == ["\x7b\"name\":\"d\",\"tty\":true\x7d"]) (by decide +kernel)
  obtain ⟨hconvert, hsidecars⟩ := Bool.and_eq_true_iff.1 hcheck
  obtain ⟨containers, hread, hbuilds⟩ := builds_convert_iff hc hp
  rw [eq_of_beq hsidecars] at hread
  cases hread with
  | @cons _ container _ _ hfirst hrest =>
    cases hrest
    have hpod : ∀ (template : PodTemplate) (event : BuildEvent) (id : BuildId)
        (nameSpace : String),
        ∃ pod, toPod (template.buildPod event id project) nameSpace = .ok pod :=
      fun template event id nameSpace =>
        (exists_toPod_iff_sidecarsConvert template event id project nameSpace).2 hconvert
    have hfits := (hbuilds ⟨"", "", ""⟩ default default "").1.1 (hpod _ default default "")
    refine ⟨config, hc, project, hp, container, hfirst, hfits container List.mem_cons_self,
      fun template event id nameSpace => ?_⟩
    obtain ⟨pod, ht⟩ := hpod template event id nameSpace
    refine ⟨pod, ht, ((hbuilds template event id nameSpace).2 pod ht).2 ?_⟩
    exact List.Nodup.filter _ (List.nodup_singleton container.name)

/-- A sidecar that the API does not understand is accepted, and then no build of its project can be
submitted. Two sidecars of one name are accepted too, and a pod gets both. -/
theorem accepted_sidecars_refused_later :
    (∃ config, ofText (textOfSidecars ["\x7b\"name\":\"d\",\"tty\":1\x7d"]) = .ok config ∧
      ∃ project ∈ config.projects,
        ∀ (template : PodTemplate) (event : BuildEvent) (id : BuildId) (nameSpace : String),
          ∃ error, toPod (template.buildPod event id project) nameSpace = .error error) ∧
    ∃ config, ofText (textOfSidecars ["\x7b\"name\":\"d\"\x7d", "\x7b\"name\":\"d\"\x7d"]) =
        .ok config ∧
      ∃ project ∈ config.projects,
        ∀ (template : PodTemplate) (event : BuildEvent) (id : BuildId) (nameSpace : String),
          ∃ pod, toPod (template.buildPod event id project) nameSpace = .ok pod ∧
            ¬ (containerNames pod).Nodup := by
  constructor
  · obtain ⟨config, hc, project, hp, hcheck⟩ := exists_project_of_ofText
      (textOfSidecars ["\x7b\"name\":\"d\",\"tty\":1\x7d"])
      (fun project => !sidecarsConvert project) (by decide +kernel)
    refine ⟨config, hc, project, hp, fun template event id nameSpace => ?_⟩
    cases ht : toPod (template.buildPod event id project) nameSpace with
    | error error => exact ⟨error, rfl⟩
    | ok pod =>
        rw [(exists_toPod_iff_sidecarsConvert template event id project nameSpace).1 ⟨pod, ht⟩]
          at hcheck
        cases hcheck
  · obtain ⟨config, hc, project, hp, hcheck⟩ := exists_project_of_ofText
      (textOfSidecars ["\x7b\"name\":\"d\"\x7d", "\x7b\"name\":\"d\"\x7d"])
      (fun project => sidecarsConvert project &&
        !decide ((PodTemplate.sidecars project).map Container.name).Nodup) (by decide +kernel)
    obtain ⟨hconvert, htwice⟩ := Bool.and_eq_true_iff.1 hcheck
    refine ⟨config, hc, project, hp, fun template event id nameSpace => ?_⟩
    obtain ⟨pod, ht⟩ :=
      (exists_toPod_iff_sidecarsConvert template event id project nameSpace).2 hconvert
    refine ⟨pod, ht, fun hn => ?_⟩
    rw [containerNames_of_toPod ht, List.nodup_map_iff (Option.some_injective String),
      List.nodup_cons] at hn
    rw [decide_eq_true hn.2] at htwice
    cases htwice

end Config

end BuildScheduler
