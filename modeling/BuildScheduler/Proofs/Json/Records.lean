import BuildScheduler.Proofs.Json.Values

/-!
# Records part by part

A record is read member by member, in whatever order the members stand. Each part of it is written
by one member only, so what a part is in the end depends on the member of its name alone. With
distinct names an object is read if and only if the members that fields name can be read and the
required ones are there.
-/

namespace BuildScheduler.Json.Record

variable {α β : Type} {record : Record α}

def Knows (record : Record α) (name : String) : Prop := ∃ field ∈ record.fields, field.name = name

instance (record : Record α) (name : String) : Decidable (record.Knows name) := by
  unfold Knows
  infer_instance

theorem find?_eq_none_iff {name : String} :
    record.fields.find? (·.name == name) = none ↔ ¬ record.Knows name := by
  simp [Knows]

theorem of_find?_eq_some {name : String} {field : Field α}
    (h : record.fields.find? (·.name == name) = some field) :
    field ∈ record.fields ∧ field.name = name :=
  ⟨List.mem_of_find?_eq_some h, by simpa using List.find?_some h⟩

/-- A part as its member is read; without a member it is as before. -/
def readPart (decode : Decoder β) (before : β) : Option Json → Except ReadError β
  | some value => decode value.toNode
  | none => .ok before

theorem readPart_of_string {members : Members} {name text : String}
    (h : members.lookup name = some (.str text)) (before : String) :
    readPart Decode.string before (members.lookup name) = .ok text := by
  rw [h]
  exact Decode.string_ok_iff.2 rfl

/-! ## One member -/

section Members

variable {name : String} {value : Json} {rest : List (String × Json)} {before after : α}
  {seen later : List String}

theorem readMembers_field {field : Field α}
    (hf : record.fields.find? (·.name == name) = some field) :
    record.readMembers (memberNodes ((name, value) :: rest)) before seen = .ok (after, later) ↔
      name ∉ seen ∧ ∃ next, field.read value.toNode before = .ok next ∧
        record.readMembers (memberNodes rest) next (name :: seen) = .ok (after, later) := by
  rw [memberNodes, readMembers, hf]
  by_cases hs : name ∈ seen
  · simp [hs]
  · simp only [List.contains_eq_mem, hs, decide_false, Bool.false_eq_true, if_false, bind_ok_iff,
      not_false_eq_true, true_and]

theorem readMembers_kept {keep : String → Json → α → α} (hu : record.unknown = .kept keep)
    (hn : ¬ record.Knows name) (hc : value.Canonical) :
    record.readMembers (memberNodes ((name, value) :: rest)) before seen =
      record.readMembers (memberNodes rest) (keep name value before) seen := by
  rw [memberNodes, readMembers, find?_eq_none_iff.2 hn, hu]
  simp only [toJson_toNode hc]
  rfl

end Members

/-! ## Parts -/

/-- A part of a record that keeps members of other names: only the field of its name writes it,
and that field holds whatever its decoder reads. -/
structure HasPart (record : Record α) (keep : String → Json → α → α) (name : String)
    (decode : Decoder β) (part : α → β) : Prop where
  known : record.Knows name
  own : ∀ field ∈ record.fields, field.name = name → ∀ node before after,
    field.read node before = .ok after → decode node = .ok (part after)
  reads : ∀ field ∈ record.fields, field.name = name → ∀ node before content,
    decode node = .ok content → ∃ after, field.read node before = .ok after
  other : ∀ field ∈ record.fields, field.name ≠ name → ∀ node before after,
    field.read node before = .ok after → part after = part before
  kept : ∀ other value before, part (keep other value before) = part before

structure HasRest (record : Record α) (keep : String → Json → α → α) (part : α → Members) :
    Prop where
  fields : ∀ field ∈ record.fields, ∀ node before after,
    field.read node before = .ok after → part after = part before
  kept : ∀ name value before,
    part (keep name value before) = Members.insert name value (part before)

section Parts

variable {keep : String → Json → α → α} (hu : record.unknown = .kept keep)
  {members : List (String × Json)} (hc : ∀ member ∈ members, member.2.Canonical)
  {before after : α} {seen later : List String}
  (hr : record.readMembers (memberNodes members) before seen = .ok (after, later))

include hu hc hr

theorem mem_seen_iff (name : String) :
    name ∈ later ↔ name ∈ seen ∨ (name ∈ members.map (·.1) ∧ record.Knows name) := by
  induction members generalizing before seen with
  | nil =>
      cases hr
      simp
  | cons member rest ih =>
      obtain ⟨hvalue, hrest⟩ := List.forall_mem_cons.1 hc
      cases hf : record.fields.find? (·.name == member.1) with
      | some field =>
          obtain ⟨-, next, -, hr⟩ := (readMembers_field hf).1 hr
          have hk : record.Knows member.1 := ⟨field, of_find?_eq_some hf⟩
          rw [ih hrest hr, List.mem_cons, List.map_cons, List.mem_cons]
          by_cases he : name = member.1
          · subst he
            simp [hk]
          · simp [he]
      | none =>
          have hn := find?_eq_none_iff.1 hf
          rw [readMembers_kept hu hn hvalue] at hr
          rw [ih hrest hr, List.map_cons, List.mem_cons]
          by_cases he : name = member.1
          · subst he
            simp [hn]
          · simp [he]

/-- A part whose member was met before stays as it is. -/
theorem HasPart.eq_of_seen {name : String} {decode : Decoder β} {part : α → β}
    (hp : record.HasPart keep name decode part) (hs : name ∈ seen) : part after = part before := by
  induction members generalizing before seen with
  | nil =>
      cases hr
      rfl
  | cons member rest ih =>
      obtain ⟨hvalue, hrest⟩ := List.forall_mem_cons.1 hc
      cases hf : record.fields.find? (·.name == member.1) with
      | some field =>
          obtain ⟨hm, hn⟩ := of_find?_eq_some hf
          obtain ⟨hnew, next, hread, hr⟩ := (readMembers_field hf).1 hr
          have hne : field.name ≠ name := fun he => hnew (hn ▸ he ▸ hs)
          rw [ih hrest hr (List.mem_cons_of_mem _ hs), hp.other field hm hne _ _ _ hread]
      | none =>
          rw [readMembers_kept hu (find?_eq_none_iff.1 hf) hvalue] at hr
          rw [ih hrest hr hs, hp.kept]

/-- A part depends on the member of its name alone. -/
theorem HasPart.read {name : String} {decode : Decoder β} {part : α → β}
    (hp : record.HasPart keep name decode part) (hs : name ∉ seen) :
    readPart decode (part before) (members.lookup name) = .ok (part after) := by
  induction members generalizing before seen with
  | nil =>
      cases hr
      rfl
  | cons member rest ih =>
      obtain ⟨hvalue, hrest⟩ := List.forall_mem_cons.1 hc
      rw [lookup_cons]
      cases hf : record.fields.find? (·.name == member.1) with
      | some field =>
          obtain ⟨hm, hn⟩ := of_find?_eq_some hf
          obtain ⟨hnew, next, hread, hr⟩ := (readMembers_field hf).1 hr
          by_cases he : name = member.1
          · rw [if_pos he, readPart, hp.own field hm (hn.trans he.symm) _ _ _ hread,
              hp.eq_of_seen hu hrest hr (he ▸ List.mem_cons_self)]
          · rw [if_neg he, ← hp.other field hm (fun h => he (h.symm.trans hn)) _ _ _ hread]
            exact ih hrest hr (by simp [he, hs])
      | none =>
          have hn := find?_eq_none_iff.1 hf
          have he : name ≠ member.1 := fun he => hn (he ▸ hp.known)
          rw [readMembers_kept hu hn hvalue] at hr
          rw [if_neg he, ← hp.kept member.1 member.2 before]
          exact ih hrest hr hs

theorem HasRest.read {part : α → Members} (hp : record.HasRest keep part) :
    part after = (members.filter fun member => ¬ record.Knows member.1).foldl
      (fun found member => Members.insert member.1 member.2 found) (part before) := by
  induction members generalizing before seen with
  | nil =>
      cases hr
      rfl
  | cons member rest ih =>
      obtain ⟨hvalue, hrest⟩ := List.forall_mem_cons.1 hc
      cases hf : record.fields.find? (·.name == member.1) with
      | some field =>
          obtain ⟨hm, hn⟩ := of_find?_eq_some hf
          obtain ⟨-, next, hread, hr⟩ := (readMembers_field hf).1 hr
          have hk : record.Knows member.1 := ⟨field, hm, hn⟩
          rw [List.filter_cons_of_neg (by simpa using hk), ih hrest hr,
            hp.fields field hm _ _ _ hread]
      | none =>
          have hn := find?_eq_none_iff.1 hf
          rw [readMembers_kept hu hn hvalue] at hr
          rw [List.filter_cons_of_pos (by simpa using hn), ih hrest hr, hp.kept, List.foldl_cons]

end Parts

/-! ## Objects -/

section Objects

variable {keep : String → Json → α → α} (hu : record.unknown = .kept keep)

include hu

/-- Only objects are read. -/
theorem exists_obj_of_decode {value : Json} {after : α}
    (h : record.decode value.toNode = .ok after) : ∃ members, value = .obj members := by
  cases value with
  | obj members => exact ⟨members, rfl⟩
  | arr items =>
      simp only [toNode, decode, hu] at h
      cases h
  | _ => simp [toNode, decode] at h

omit hu in
theorem decode_obj_iff {members : Members} {after : α} :
    record.decode (Json.obj members).toNode = .ok after ↔
      ∃ seen, record.readMembers (memberNodes members) record.blank [] = .ok (after, seen) ∧
        ∀ field ∈ record.fields, field.presence = .required → field.name ∈ seen := by
  have hm : ∀ seen, record.missing? seen = none ↔
      ∀ field ∈ record.fields, field.presence = .required → field.name ∈ seen := by
    intro seen
    simp [missing?]
  have hd : record.decode (Json.obj members).toNode =
      record.readObject (memberNodes members) none := by
    rw [toNode, decode]
  rw [hd, readObject, bind_ok_iff]
  constructor
  · rintro ⟨⟨other, seen⟩, hr, h⟩
    refine ⟨seen, ?_⟩
    cases hs : record.missing? seen with
    | none =>
        simp only [hs] at h
        cases h
        exact ⟨hr, (hm seen).1 hs⟩
    | some name =>
        simp only [hs] at h
        cases h
  · rintro ⟨seen, hr, hs⟩
    refine ⟨(after, seen), hr, ?_⟩
    simp only [(hm seen).2 hs]
    rfl

variable {members : Members} (hc : ∀ member ∈ members, member.2.Canonical)
include hc

/-- Members are read if every one that a field names can be. -/
theorem exists_readMembers (hn : (members.map (·.1)).Nodup) (before : α) {seen : List String}
    (hs : ∀ name ∈ members.map (·.1), name ∉ seen)
    (hok : ∀ member ∈ members, ∀ field ∈ record.fields, field.name = member.1 →
      ∀ before, ∃ after, field.read member.2.toNode before = .ok after) :
    ∃ after later, record.readMembers (memberNodes members) before seen = .ok (after, later) := by
  induction members generalizing before seen with
  | nil => exact ⟨before, seen, rfl⟩
  | cons member rest ih =>
      obtain ⟨hvalue, hrest⟩ := List.forall_mem_cons.1 hc
      obtain ⟨hnew, hn⟩ : member.1 ∉ rest.map (·.1) ∧ (rest.map (·.1)).Nodup :=
        List.nodup_cons.1 hn
      obtain ⟨hfirst, hs⟩ := List.forall_mem_cons.1 hs
      obtain ⟨hmember, hok⟩ := List.forall_mem_cons.1 hok
      cases hf : record.fields.find? (·.name == member.1) with
      | some field =>
          obtain ⟨hm, hname⟩ := of_find?_eq_some hf
          obtain ⟨next, hread⟩ := hmember field hm hname before
          have hlater : ∀ name ∈ rest.map (·.1), name ∉ member.1 :: seen := by
            intro name hin
            rw [List.mem_cons, not_or]
            exact ⟨fun he => hnew (he ▸ hin), hs name hin⟩
          obtain ⟨after, later, hr⟩ := ih hrest hn next hlater hok
          exact ⟨after, later, (readMembers_field hf).2 ⟨hfirst, next, hread, hr⟩⟩
      | none =>
          rw [readMembers_kept hu (find?_eq_none_iff.1 hf) hvalue]
          exact ih hrest hn _ hs hok

variable {after : α}

theorem HasPart.of_decode {name : String} {decode : Decoder β} {part : α → β}
    (hp : record.HasPart keep name decode part)
    (h : record.decode (Json.obj members).toNode = .ok after) :
    readPart decode (part record.blank) (members.lookup name) = .ok (part after) := by
  obtain ⟨seen, hr, -⟩ := decode_obj_iff.1 h
  exact hp.read hu hc hr List.not_mem_nil

theorem HasRest.of_decode {part : α → Members} (hp : record.HasRest keep part)
    (hs : members.Sorted) (hblank : part record.blank = [])
    (h : record.decode (Json.obj members).toNode = .ok after) :
    part after = members.filter fun member => ¬ record.Knows member.1 := by
  obtain ⟨seen, hr, -⟩ := decode_obj_iff.1 h
  rw [hp.read hu hc hr, hblank]
  exact Members.ofList_of_sorted (hs.filter _)

omit hu hc in
/-- What is read of a member can be read into any record. -/
theorem HasPart.readable {name : String} {decode : Decoder β} {part : α → β}
    (hp : record.HasPart keep name decode part) {before content : β}
    (hr : readPart decode before (members.lookup name) = .ok content) {field : Field α}
    (hf : field ∈ record.fields) (hn : field.name = name) {value : Json}
    (hl : members.lookup field.name = some value) (met : α) :
    ∃ after, field.read value.toNode met = .ok after := by
  rw [hn] at hl
  rw [hl] at hr
  exact hp.reads field hf hn _ met content hr

/-- A required member is there. -/
theorem exists_lookup_of_decode {field : Field α} (hf : field ∈ record.fields)
    (hq : field.presence = .required) (h : record.decode (Json.obj members).toNode = .ok after) :
    ∃ value, members.lookup field.name = some value := by
  obtain ⟨seen, hr, hseen⟩ := decode_obj_iff.1 h
  obtain hn | ⟨hn, -⟩ := (mem_seen_iff hu hc hr field.name).1 (hseen field hf hq)
  · cases hn
  · exact Option.ne_none_iff_exists'.1 fun he => lookup_eq_none_iff.1 he hn

/-- A part that is required is read from its member. -/
theorem HasPart.exists_of_decode {name : String} {decode : Decoder β} {part : α → β}
    (hp : record.HasPart keep name decode part) {field : Field α} (hf : field ∈ record.fields)
    (hn : field.name = name) (hq : field.presence = .required)
    (h : record.decode (Json.obj members).toNode = .ok after) :
    ∃ value, members.lookup name = some value ∧ decode value.toNode = .ok (part after) := by
  obtain ⟨value, hv⟩ := exists_lookup_of_decode hu hc hf hq h
  have hr := hp.of_decode hu hc h
  rw [hn] at hv
  rw [hv] at hr
  exact ⟨value, hv, hr⟩

theorem exists_decode (hs : members.Sorted)
    (hok : ∀ field ∈ record.fields, ∀ value, members.lookup field.name = some value →
      ∀ before, ∃ after, field.read value.toNode before = .ok after)
    (hq : ∀ field ∈ record.fields, field.presence = .required →
      ∃ value, members.lookup field.name = some value) :
    ∃ after, record.decode (Json.obj members).toNode = .ok after := by
  have hok' : ∀ member ∈ members, ∀ field ∈ record.fields, field.name = member.1 →
      ∀ before, ∃ after, field.read member.2.toNode before = .ok after :=
    fun member hm field hf hn => hok field hf _ (hn ▸ lookup_of_mem hs.nodup hm)
  obtain ⟨after, seen, hr⟩ := exists_readMembers hu hc hs.nodup record.blank
    (fun _ _ => List.not_mem_nil) hok'
  refine ⟨after, decode_obj_iff.2 ⟨seen, hr, fun field hf hp => ?_⟩⟩
  obtain ⟨value, hv⟩ := hq field hf hp
  have hn : field.name ∈ members.map (·.1) := List.mem_map_of_mem (f := (·.1)) (mem_of_lookup hv)
  exact (mem_seen_iff hu hc hr field.name).2 (.inr ⟨hn, field, hf, rfl⟩)

end Objects

end BuildScheduler.Json.Record
