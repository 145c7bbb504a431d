import BuildScheduler.Container
import BuildScheduler.Proofs.Json.Records

/-!
# What containers are read from

A container, a variable and a mount are each read from an object, part by part: every part from the
member of its name, the rest from the members of other names. `ReadFrom` lists these parts, and an
object is decoded if and only if they can be read from it.
-/

namespace BuildScheduler

open Json (Members)
open Json.Record (HasPart HasRest readPart)

/-! ## Variables -/

namespace EnvVar

def keep (name : String) (value : Json) (var : EnvVar) : EnvVar :=
  { var with extra := keepMember name value var.extra }

theorem hasName : HasPart record keep "name" Json.Decode.string EnvVar.name where
  known := by simp [Json.Record.Knows, record]
  own := by simp [record, fmap_ok_iff]
  reads := by simp +contextual [record, fmap_ok_iff]
  other := by simp +contextual [record, fmap_ok_iff]
  kept _ _ _ := rfl

theorem hasValue :
    HasPart record keep "value" (Json.Decode.option Json.Decode.string) EnvVar.value where
  known := by simp [Json.Record.Knows, record]
  own := by simp [record, fmap_ok_iff]
  reads := by simp +contextual [record, fmap_ok_iff]
  other := by simp +contextual [record, fmap_ok_iff]
  kept _ _ _ := rfl

theorem hasExtra : HasRest record keep EnvVar.extra where
  fields := by simp +contextual [record, fmap_ok_iff]
  kept _ _ _ := rfl

structure ReadFrom (members : Members) (var : EnvVar) : Prop where
  name : members.lookup "name" = some (.str var.name)
  value : readPart (Json.Decode.option Json.Decode.string) none (members.lookup "value") =
    .ok var.value
  extra : var.extra = members.filter fun member => ¬ record.Knows member.1

theorem ReadFrom.eq {members : Members} {a b : EnvVar} (ha : ReadFrom members a)
    (hb : ReadFrom members b) : a = b := by
  obtain ⟨hname, hvalue, hextra⟩ := ha
  cases a
  cases b
  cases hname.symm.trans hb.name
  cases hvalue.symm.trans hb.value
  cases hextra.trans hb.extra.symm
  rfl

theorem decode_iff {members : Members} (hs : members.Sorted)
    (hc : ∀ member ∈ members, member.2.Canonical) {var : EnvVar} :
    decode (Json.obj members).toNode = .ok var ↔ ReadFrom members var := by
  have hread : ∀ {var : EnvVar}, decode (Json.obj members).toNode = .ok var →
      ReadFrom members var := by
    intro var h
    obtain ⟨name, hl, hn⟩ := hasName.exists_of_decode rfl hc List.mem_cons_self rfl rfl h
    rw [Json.Decode.string_ok_iff.1 hn] at hl
    exact ⟨hl, hasValue.of_decode rfl hc h, hasExtra.of_decode rfl hc hs rfl h⟩
  refine ⟨hread, fun h => ?_⟩
  have hok : ∃ other, decode (Json.obj members).toNode = .ok other := by
    refine Json.Record.exists_decode rfl hc hs ?_ ?_
    · have hn := Json.Record.readPart_of_string h.name ""
      rw [record, List.forall_mem_cons, List.forall_mem_singleton]
      exact ⟨fun _ hl => hasName.readable hn (by simp [record]) rfl hl,
        fun _ hl => hasValue.readable h.value (by simp [record]) rfl hl⟩
    · rw [record, List.forall_mem_cons, List.forall_mem_singleton]
      exact ⟨fun _ => ⟨_, h.name⟩, nofun⟩
  obtain ⟨other, ho⟩ := hok
  rw [ho, (hread ho).eq h]

end EnvVar

/-! ## Mounts -/

namespace VolumeMount

def keep (name : String) (value : Json) (mount : VolumeMount) : VolumeMount :=
  { mount with extra := keepMember name value mount.extra }

theorem hasName : HasPart record keep "name" Json.Decode.string VolumeMount.name where
  known := by simp [Json.Record.Knows, record]
  own := by simp [record, fmap_ok_iff, -Bool.exists_bool, -Bool.forall_bool]
  reads := by simp +contextual [record, fmap_ok_iff, -Bool.exists_bool, -Bool.forall_bool]
  other := by simp +contextual [record, fmap_ok_iff, -Bool.exists_bool, -Bool.forall_bool]
  kept _ _ _ := rfl

theorem hasMountPath :
    HasPart record keep "mountPath" Json.Decode.string VolumeMount.mountPath where
  known := by simp [Json.Record.Knows, record]
  own := by simp [record, fmap_ok_iff, -Bool.exists_bool, -Bool.forall_bool]
  reads := by simp +contextual [record, fmap_ok_iff, -Bool.exists_bool, -Bool.forall_bool]
  other := by simp +contextual [record, fmap_ok_iff, -Bool.exists_bool, -Bool.forall_bool]
  kept _ _ _ := rfl

theorem hasReadOnly : HasPart record keep "readOnly" Json.Decode.bool VolumeMount.readOnly where
  known := by simp [Json.Record.Knows, record]
  own := by simp [record, fmap_ok_iff, -Bool.exists_bool, -Bool.forall_bool]
  reads := by simp +contextual [record, fmap_ok_iff, -Bool.exists_bool, -Bool.forall_bool]
  other := by simp +contextual [record, fmap_ok_iff, -Bool.exists_bool, -Bool.forall_bool]
  kept _ _ _ := rfl

theorem hasExtra : HasRest record keep VolumeMount.extra where
  fields := by simp +contextual [record, fmap_ok_iff, -Bool.exists_bool, -Bool.forall_bool]
  kept _ _ _ := rfl

structure ReadFrom (members : Members) (mount : VolumeMount) : Prop where
  name : members.lookup "name" = some (.str mount.name)
  mountPath : members.lookup "mountPath" = some (.str mount.mountPath)
  readOnly : readPart Json.Decode.bool false (members.lookup "readOnly") = .ok mount.readOnly
  extra : mount.extra = members.filter fun member => ¬ record.Knows member.1

theorem ReadFrom.eq {members : Members} {a b : VolumeMount} (ha : ReadFrom members a)
    (hb : ReadFrom members b) : a = b := by
  obtain ⟨hname, hpath, hreadOnly, hextra⟩ := ha
  cases a
  cases b
  cases hname.symm.trans hb.name
  cases hpath.symm.trans hb.mountPath
  cases hreadOnly.symm.trans hb.readOnly
  cases hextra.trans hb.extra.symm
  rfl

theorem decode_iff {members : Members} (hs : members.Sorted)
    (hc : ∀ member ∈ members, member.2.Canonical) {mount : VolumeMount} :
    decode (Json.obj members).toNode = .ok mount ↔ ReadFrom members mount := by
  have hread : ∀ {mount : VolumeMount}, decode (Json.obj members).toNode = .ok mount →
      ReadFrom members mount := by
    intro mount h
    obtain ⟨name, hl, hn⟩ := hasName.exists_of_decode rfl hc List.mem_cons_self rfl rfl h
    obtain ⟨path, hm, hp⟩ := hasMountPath.exists_of_decode rfl hc
      (List.mem_cons_of_mem _ List.mem_cons_self) rfl rfl h
    rw [Json.Decode.string_ok_iff.1 hn] at hl
    rw [Json.Decode.string_ok_iff.1 hp] at hm
    exact ⟨hl, hm, hasReadOnly.of_decode rfl hc h, hasExtra.of_decode rfl hc hs rfl h⟩
  refine ⟨hread, fun h => ?_⟩
  have hok : ∃ other, decode (Json.obj members).toNode = .ok other := by
    refine Json.Record.exists_decode rfl hc hs ?_ ?_
    · have hn := Json.Record.readPart_of_string h.name ""
      have hp := Json.Record.readPart_of_string h.mountPath ""
      rw [record, List.forall_mem_cons, List.forall_mem_cons, List.forall_mem_singleton]
      exact ⟨fun _ hl => hasName.readable hn (by simp [record]) rfl hl,
        fun _ hl => hasMountPath.readable hp (by simp [record]) rfl hl,
        fun _ hl => hasReadOnly.readable h.readOnly (by simp [record]) rfl hl⟩
    · rw [record, List.forall_mem_cons, List.forall_mem_cons, List.forall_mem_singleton]
      exact ⟨fun _ => ⟨_, h.name⟩, fun _ => ⟨_, h.mountPath⟩, nofun⟩
  obtain ⟨other, ho⟩ := hok
  rw [ho, (hread ho).eq h]

end VolumeMount

/-! ## Containers -/

namespace Container

def keep (name : String) (value : Json) (container : Container) : Container :=
  { container with extra := keepMember name value container.extra }

theorem hasName : HasPart record keep "name" Json.Decode.string Container.name where
  known := by simp [Json.Record.Knows, record]
  own := by simp [record, fmap_ok_iff]
  reads := by simp +contextual [record, fmap_ok_iff]
  other := by simp +contextual [record, fmap_ok_iff]
  kept _ _ _ := rfl

theorem hasImage :
    HasPart record keep "image" (Json.Decode.option Json.Decode.string) Container.image where
  known := by simp [Json.Record.Knows, record]
  own := by simp [record, fmap_ok_iff]
  reads := by simp +contextual [record, fmap_ok_iff]
  other := by simp +contextual [record, fmap_ok_iff]
  kept _ _ _ := rfl

theorem hasEnv : HasPart record keep "env" (Json.Decode.list EnvVar.decode) Container.env where
  known := by simp [Json.Record.Knows, record]
  own := by simp [record, fmap_ok_iff]
  reads := by simp +contextual [record, fmap_ok_iff]
  other := by simp +contextual [record, fmap_ok_iff]
  kept _ _ _ := rfl

theorem hasMounts : HasPart record keep "volumeMounts" (Json.Decode.list VolumeMount.decode)
    Container.mounts where
  known := by simp [Json.Record.Knows, record]
  own := by simp [record, fmap_ok_iff]
  reads := by simp +contextual [record, fmap_ok_iff]
  other := by simp +contextual [record, fmap_ok_iff]
  kept _ _ _ := rfl

theorem hasExtra : HasRest record keep Container.extra where
  fields := by simp +contextual [record, fmap_ok_iff]
  kept _ _ _ := rfl

/-- The parts of a container, as they are read from an object. -/
structure ReadFrom (members : Members) (container : Container) : Prop where
  name : members.lookup "name" = some (.str container.name)
  image : readPart (Json.Decode.option Json.Decode.string) none (members.lookup "image") =
    .ok container.image
  env : readPart (Json.Decode.list EnvVar.decode) [] (members.lookup "env") = .ok container.env
  mounts : readPart (Json.Decode.list VolumeMount.decode) [] (members.lookup "volumeMounts") =
    .ok container.mounts
  extra : container.extra = members.filter fun member => ¬ record.Knows member.1

theorem ReadFrom.eq {members : Members} {a b : Container} (ha : ReadFrom members a)
    (hb : ReadFrom members b) : a = b := by
  obtain ⟨hname, himage, henv, hmounts, hextra⟩ := ha
  cases a
  cases b
  cases hname.symm.trans hb.name
  cases himage.symm.trans hb.image
  cases henv.symm.trans hb.env
  cases hmounts.symm.trans hb.mounts
  cases hextra.trans hb.extra.symm
  rfl

theorem decode_iff {members : Members} (hs : members.Sorted)
    (hc : ∀ member ∈ members, member.2.Canonical) {container : Container} :
    decode (Json.obj members).toNode = .ok container ↔ ReadFrom members container := by
  have hread : ∀ {container : Container}, decode (Json.obj members).toNode = .ok container →
      ReadFrom members container := by
    intro container h
    obtain ⟨name, hl, hn⟩ := hasName.exists_of_decode rfl hc List.mem_cons_self rfl rfl h
    rw [Json.Decode.string_ok_iff.1 hn] at hl
    exact ⟨hl, hasImage.of_decode rfl hc h, hasEnv.of_decode rfl hc h,
      hasMounts.of_decode rfl hc h, hasExtra.of_decode rfl hc hs rfl h⟩
  refine ⟨hread, fun h => ?_⟩
  have hok : ∃ other, decode (Json.obj members).toNode = .ok other := by
    refine Json.Record.exists_decode rfl hc hs ?_ ?_
    · have hn := Json.Record.readPart_of_string h.name ""
      rw [record, List.forall_mem_cons, List.forall_mem_cons, List.forall_mem_cons,
        List.forall_mem_singleton]
      exact ⟨fun _ hl => hasName.readable hn (by simp [record]) rfl hl,
        fun _ hl => hasImage.readable h.image (by simp [record]) rfl hl,
        fun _ hl => hasEnv.readable h.env (by simp [record]) rfl hl,
        fun _ hl => hasMounts.readable h.mounts (by simp [record]) rfl hl⟩
    · rw [record, List.forall_mem_cons, List.forall_mem_cons, List.forall_mem_cons,
        List.forall_mem_singleton]
      exact ⟨fun _ => ⟨_, h.name⟩, nofun, nofun, nofun⟩
  obtain ⟨other, ho⟩ := hok
  rw [ho, (hread ho).eq h]

end Container

end BuildScheduler
