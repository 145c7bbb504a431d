import BuildScheduler.Kubernetes.Schema
import BuildScheduler.Proofs.Json.Writing

/-!
# Objects read field by field

A schema reads each field of an object from the member of its name alone: null is absent, and an
absent member that is required is blank. So the object that is read is known by its lookups, and
what tidying does to the object follows from what it does to each member.
-/

namespace BuildScheduler.Kubernetes.Schema

open Json (Members ReadError)
open Json.Members (tidied)

/-! ## Fields -/

def readValue (schema : Schema) (value : Json) : Except ReadError Json := read value.toNode schema

def absent (required : Bool) (schema : Schema) : Option Json :=
  if required then some schema.blank else none

def fieldValue (required : Bool) (schema : Schema) : Option Json → Except ReadError (Option Json)
  | none => .ok (absent required schema)
  | some value =>
      if schema.admitsNull ∧ value = .null then .ok (absent required schema)
      else (readValue schema value).map some

theorem fieldValue_some_iff {required : Bool} {schema : Schema} {value : Json}
    {held : Option Json} :
    fieldValue required schema (some value) = .ok held ↔
      if schema.admitsNull ∧ value = .null then held = absent required schema
      else ∃ json, readValue schema value = .ok json ∧ some json = held := by
  rw [fieldValue]
  split
  · simp [eq_comm]
  · exact map_ok_iff

/-- What the fields make of the member of a name; a member that none names is dropped. -/
def valueAt (fields : List (String × Bool × Schema)) (name : String) (value : Option Json) :
    Except ReadError (Option Json) :=
  match fields.lookup name with
  | none => .ok none
  | some (required, schema) => fieldValue required schema value

theorem valueAt_eq {fields : List (String × Bool × Schema)} {name : String} {required : Bool}
    {schema : Schema} (h : fields.lookup name = some (required, schema)) :
    valueAt fields name = fieldValue required schema := by
  funext value
  rw [valueAt, h]

def put (name : String) : Option Json → Members → Members
  | some value, found => Members.insert name value found
  | none, found => found.filter (·.1 != name)

theorem lookup_put {found : Members} (hf : found.Sorted) (name : String) (held : Option Json)
    (other : String) :
    (put name held found).lookup other = if other = name then held else found.lookup other := by
  cases held with
  | some value => exact Json.Members.lookup_insert name value found other
  | none =>
      rw [put, Json.lookup_filter hf.nodup]
      by_cases h : other = name
      · simp [h]
      · rw [if_neg h]
        cases found.lookup other with
        | none => rfl
        | some value => simp [h]

theorem sorted_put {found : Members} (hf : found.Sorted) (name : String) (held : Option Json) :
    Members.Sorted (put name held found) := by
  cases held with
  | some value => exact hf.insert name value
  | none => exact hf.filter _

theorem isNull_toNode (value : Json) : isNull value.toNode = decide (value = .null) := by
  cases value <;> simp [Json.toNode, isNull]

theorem sorted_blankFields (fields : List (String × Bool × Schema)) :
    Members.Sorted (blankFields fields) := by
  induction fields with
  | nil => exact Json.Members.sorted_nil
  | cons field rest ih =>
      rw [blankFields]
      split
      · exact ih.insert _ _
      · exact ih

/-- Before a member is read every field is absent. -/
theorem valueAt_none {fields : List (String × Bool × Schema)} (hf : (fields.map (·.1)).Nodup)
    (name : String) : valueAt fields name none = .ok ((blankFields fields).lookup name) := by
  induction fields with
  | nil => rfl
  | cons field rest ih =>
      obtain ⟨first, required, schema⟩ := field
      obtain ⟨hnew, hrest⟩ := List.nodup_cons.1 hf
      rw [valueAt, Json.lookup_cons, blankFields]
      by_cases h : name = first
      · subst h
        have hrest := ih hrest
        rw [valueAt, Json.lookup_eq_none_iff.2 hnew] at hrest
        rw [if_pos rfl]
        cases required with
        | true => simp [fieldValue, absent, Json.Members.lookup_insert]
        | false => simpa [fieldValue, absent] using hrest
      · rw [if_neg h]
        refine (ih hrest).trans ?_
        cases required with
        | true => rw [if_pos rfl, Json.Members.lookup_insert, if_neg h]
        | false => rfl

/-! ## Members -/

section Members

variable {fields : List (String × Bool × Schema)} {name : String} {value : Json}
  {rest : List (String × Json)} {found out : Members}

theorem readFields_unknown (hl : fields.lookup name = none) :
    readFields (Json.memberNodes ((name, value) :: rest)) fields found =
      readFields (Json.memberNodes rest) fields found := by
  rw [Json.memberNodes, readFields, hl]
  simp only [Json.skip_toNode]
  rfl

theorem readFields_known {required : Bool} {schema : Schema}
    (hl : fields.lookup name = some (required, schema)) :
    readFields (Json.memberNodes ((name, value) :: rest)) fields found = .ok out ↔
      ∃ held, fieldValue required schema (some value) = .ok held ∧
        readFields (Json.memberNodes rest) fields (put name held found) = .ok out := by
  rw [Json.memberNodes, readFields, hl, fieldValue]
  simp only [isNull_toNode, Bool.and_eq_true, decide_eq_true_eq]
  split
  · cases required <;> simp [absent, put]
  · simp [bind_ok_iff, map_ok_iff, put, readValue]

/-- What is read stands under the names of the fields that have a member; the rest is as found. -/
theorem readFields_ok_iff {members : List (String × Json)} (hn : (members.map (·.1)).Nodup)
    (hf : found.Sorted) :
    readFields (Json.memberNodes members) fields found = .ok out ↔
      out.Sorted ∧ ∀ name, (if fields.lookup name = none ∨ members.lookup name = none
        then .ok (found.lookup name) else valueAt fields name (members.lookup name)) =
          .ok (out.lookup name) := by
  induction members generalizing found with
  | nil =>
      rw [Json.memberNodes, readFields]
      constructor
      · rintro ⟨⟩
        exact ⟨hf, by simp⟩
      · rintro ⟨ho, h⟩
        exact congrArg Except.ok (hf.ext ho (by simpa using h))
  | cons member rest ih =>
      obtain ⟨first, value⟩ := member
      obtain ⟨hnew, hn⟩ := List.nodup_cons.1 hn
      have hrest : rest.lookup first = none := Json.lookup_eq_none_iff.2 hnew
      cases hl : fields.lookup first with
      | none =>
          rw [readFields_unknown hl, ih hn hf]
          refine and_congr_right fun _ => forall_congr' fun name => ?_
          rw [Json.lookup_cons]
          by_cases h : name = first
          · subst h
            rw [if_pos (.inl hl), if_pos (.inl hl)]
          · rw [if_neg h]
      | some field =>
          obtain ⟨required, schema⟩ := field
          rw [readFields_known hl]
          constructor
          · rintro ⟨held, hv, h⟩
            obtain ⟨ho, h⟩ := (ih hn (sorted_put hf first held)).1 h
            refine ⟨ho, fun name => ?_⟩
            have h := h name
            rw [lookup_put hf] at h
            by_cases he : name = first
            · subst he
              simpa [Json.lookup_cons, hrest, hl, valueAt, hv] using h
            · simpa only [Json.lookup_cons, if_neg he] using h
          · rintro ⟨ho, h⟩
            refine ⟨out.lookup first, ?_, (ih hn (sorted_put hf first _)).2 ⟨ho, fun name => ?_⟩⟩
            · simpa [Json.lookup_cons, hl, valueAt] using h first
            · rw [lookup_put hf]
              by_cases he : name = first
              · subst he
                simp [hrest]
              · simpa only [Json.lookup_cons, if_neg he] using h name

theorem exists_readFields (found : Members) {members : List (String × Json)}
    (h : ∀ member ∈ members, ∃ held, valueAt fields member.1 (some member.2) = .ok held) :
    ∃ out, readFields (Json.memberNodes members) fields found = .ok out := by
  induction members generalizing found with
  | nil => exact ⟨found, by rw [Json.memberNodes, readFields]⟩
  | cons member rest ih =>
      obtain ⟨⟨held, hv⟩, hrest⟩ := List.forall_mem_cons.1 h
      rw [valueAt] at hv
      cases hl : fields.lookup member.1 with
      | none =>
          rw [readFields_unknown hl]
          exact ih found hrest
      | some field =>
          rw [hl] at hv
          obtain ⟨out, ho⟩ := ih (put member.1 held found) hrest
          exact ⟨out, (readFields_known hl).2 ⟨held, hv, ho⟩⟩

end Members

/-! ## Objects -/

section Objects

variable {title : String} {fields : List (String × Bool × Schema)} {members : Members}
  (hf : (fields.map (·.1)).Nodup) (hn : (members.map (·.1)).Nodup)

theorem read_obj {json : Json} :
    read (Json.obj members).toNode (.object title fields) = .ok json ↔ ∃ out,
      readFields (Json.memberNodes members) fields (blankFields fields) = .ok out ∧
        .obj out = json := by
  rw [Json.toNode, read]
  simp [bind_ok_iff, Json.Decode.closing, pure, Except.pure]

include hf hn

/-- An object is read if every field is, each from the member of its name. -/
theorem read_obj_iff {json : Json} :
    read (Json.obj members).toNode (.object title fields) = .ok json ↔ ∃ out : Members,
      json = .obj out ∧ out.Sorted ∧
        ∀ name, valueAt fields name (members.lookup name) = .ok (out.lookup name) := by
  have hout : ∀ out : Members,
      readFields (Json.memberNodes members) fields (blankFields fields) = .ok out ↔
        out.Sorted ∧ ∀ name, valueAt fields name (members.lookup name) = .ok (out.lookup name) := by
    intro out
    rw [readFields_ok_iff hn (sorted_blankFields fields)]
    refine and_congr_right fun _ => forall_congr' fun name => ?_
    rw [← valueAt_none hf]
    cases hm : members.lookup name with
    | none => rw [if_pos (.inr rfl)]
    | some value =>
        cases hl : fields.lookup name with
        | none => simp [valueAt, hl]
        | some field => simp
  rw [read_obj]
  constructor
  · rintro ⟨out, ho, rfl⟩
    exact ⟨out, rfl, (hout out).1 ho⟩
  · rintro ⟨out, rfl, ho⟩
    exact ⟨out, (hout out).2 ho, rfl⟩

omit hf in
theorem exists_read_obj (title : String)
    (h : ∀ name, ∃ held, valueAt fields name (members.lookup name) = .ok held) :
    ∃ json, read (Json.obj members).toNode (.object title fields) = .ok json := by
  obtain ⟨out, ho⟩ := exists_readFields (blankFields fields) fun member hm => by
    obtain ⟨held, hv⟩ := h member.1
    rw [Json.lookup_of_mem hn hm] at hv
    exact ⟨held, hv⟩
  exact ⟨.obj out, read_obj.2 ⟨out, ho, rfl⟩⟩

end Objects

theorem exists_obj_of_read {title : String} {fields : List (String × Bool × Schema)}
    {value json : Json} (h : read value.toNode (.object title fields) = .ok json) :
    ∃ members, value = .obj members := by
  cases value with
  | obj members => exact ⟨members, rfl⟩
  | _ => simp [Json.toNode, read, readScalar] at h

/-! ## Lists -/

theorem readItems_itemNodes (items : List Json) (item : Schema) :
    readItems (Json.itemNodes items) item = items.mapM fun value => read value.toNode item := by
  induction items with
  | nil => rw [Json.itemNodes, readItems, List.mapM_nil]; rfl
  | cons first rest ih => rw [Json.itemNodes, readItems, List.mapM_cons, ih]

theorem read_arr_iff {items : List Json} {item : Schema} {json : Json} :
    read (Json.arr items).toNode (.list item) = .ok json ↔ ∃ values,
      List.Forall₂ (fun value read => Schema.read value.toNode item = .ok read) items values ∧
        .arr values = json := by
  rw [Json.toNode, read, readItems_itemNodes]
  simp [bind_ok_iff, mapM_ok_iff, Json.Decode.closing, pure, Except.pure]

theorem exists_arr_of_read {item : Schema} {value json : Json}
    (h : read value.toNode (.list item) = .ok json) : ∃ items, value = .arr items := by
  cases value with
  | arr items => exact ⟨items, rfl⟩
  | _ => simp [Json.toNode, read, readScalar] at h

/-! ## Tidied values -/

/-- Tidying commutes with reading at a value: it is read after tidying if it is read before, and
what is read is then tidied too. -/
def Commutes (read : α → Except ReadError β) (tidy : α → α) (tidyRead : β → β) (value : α) : Prop :=
  ∀ out, read (tidy value) = .ok out ↔ ∃ direct, read value = .ok direct ∧ out = tidyRead direct

section Commutes

variable {α β : Type} {read : α → Except ReadError β} {tidy : α → α} {tidyRead : β → β} {value : α}

theorem commutes_of_unread (h : ∀ out, read value ≠ .ok out) (ht : tidy value = value) :
    Commutes read tidy tidyRead value := by
  intro out
  rw [ht]
  exact iff_of_false (h out) fun ⟨direct, hd, _⟩ => h direct hd

theorem commutes_of_unchanged (ht : tidy value = value)
    (hr : ∀ out, read value = .ok out → tidyRead out = out) :
    Commutes read tidy tidyRead value := by
  intro out
  rw [ht]
  constructor
  · intro h
    exact ⟨out, h, (hr out h).symm⟩
  · rintro ⟨direct, hd, rfl⟩
    rwa [hr direct hd]

theorem commutes_of_eq {out : β} (ht : read (tidy value) = .ok (tidyRead out))
    (h : read value = .ok out) : Commutes read tidy tidyRead value := by
  intro other
  simp [ht, h, eq_comm]

end Commutes

section Tidy

variable {drop drop' : String → Json → Bool} {change change' : String → Json → Json}

theorem commutes_object {title : String} {fields : List (String × Bool × Schema)} {value : Json}
    (hf : (fields.map (·.1)).Nodup) (hv : value.Canonical)
    (h : ∀ name held, (∀ value ∈ held, Json.Canonical value) →
      Commutes (valueAt fields name) (tidied drop change name) (tidied drop' change' name) held) :
    Commutes (readValue (.object title fields)) (Json.tidy drop change) (Json.tidy drop' change')
      value := by
  cases value with
  | obj members =>
      obtain ⟨hs, hc⟩ := Json.canonical_obj.1 hv
      have ht : (Members.tidy drop change members).Sorted := hs.tidy
      have hm := fun name => h name (members.lookup name)
        fun _ hl => hc _ (Json.mem_of_lookup hl)
      intro json
      rw [Json.tidy, readValue, read_obj_iff hf ht.nodup]
      constructor
      · rintro ⟨out, rfl, ho, hout⟩
        have hparts := fun name => (hm name _).1 (Json.Members.lookup_tidy hs name ▸ hout name)
        obtain ⟨direct, hd⟩ := exists_read_obj hs.nodup title
          fun name => (hparts name).imp fun _ hpart => hpart.1
        obtain ⟨before, rfl, hb, hbefore⟩ := (read_obj_iff hf hs.nodup).1 hd
        refine ⟨_, hd, congrArg Json.obj (ho.ext hb.tidy fun name => ?_)⟩
        obtain ⟨held, hv, hl⟩ := hparts name
        rw [hl, Json.Members.lookup_tidy hb, Except.ok.inj ((hbefore name).symm.trans hv)]
      · rintro ⟨direct, hd, rfl⟩
        obtain ⟨before, rfl, hb, hbefore⟩ := (read_obj_iff hf hs.nodup).1 hd
        refine ⟨_, rfl, hb.tidy, fun name => ?_⟩
        rw [Json.Members.lookup_tidy hs, Json.Members.lookup_tidy hb]
        exact (hm name _).2 ⟨_, hbefore name, rfl⟩
  | _ =>
      refine commutes_of_unread (fun json hj => ?_) rfl
      obtain ⟨members, hobj⟩ := exists_obj_of_read hj
      cases hobj

theorem commutes_arr {item : Schema} {tidyItem tidyRead : Json → Json} {items : List Json}
    (h : ∀ value ∈ items, Commutes (readValue item) tidyItem tidyRead value) :
    Commutes (readValue (.list item)) (Json.mapItems tidyItem) (Json.mapItems tidyRead)
      (.arr items) := by
  have hall : ∀ out, List.Forall₂ (fun value read => readValue item value = .ok read)
        (items.map tidyItem) out ↔ ∃ direct,
      List.Forall₂ (fun value read => readValue item value = .ok read) items direct ∧
        out = direct.map tidyRead := by
    induction items with
    | nil => simp
    | cons value rest ih =>
        obtain ⟨hfirst, hrest⟩ := List.forall_mem_cons.1 h
        intro out
        rw [List.map_cons, List.forall₂_cons_left_iff]
        constructor
        · rintro ⟨read, more, hv, hm, rfl⟩
          obtain ⟨direct, hd, rfl⟩ := (hfirst read).1 hv
          obtain ⟨directs, hds, rfl⟩ := (ih hrest more).1 hm
          exact ⟨direct :: directs, .cons hd hds, rfl⟩
        · rintro ⟨directs, hds, rfl⟩
          obtain ⟨direct, more, hd, hm, rfl⟩ := List.forall₂_cons_left_iff.1 hds
          exact ⟨_, _, (hfirst _).2 ⟨direct, hd, rfl⟩, (ih hrest _).2 ⟨more, hm, rfl⟩, rfl⟩
  intro json
  rw [Json.mapItems, readValue, read_arr_iff]
  constructor
  · rintro ⟨out, ho, rfl⟩
    obtain ⟨direct, hd, rfl⟩ := (hall out).1 ho
    exact ⟨.arr direct, read_arr_iff.2 ⟨direct, hd, rfl⟩, rfl⟩
  · rintro ⟨json, hj, rfl⟩
    obtain ⟨direct, hd, rfl⟩ := read_arr_iff.1 hj
    exact ⟨_, (hall _).2 ⟨direct, hd, rfl⟩, rfl⟩

/-! ## Fields of tidied objects -/

variable {name : String}

/-- A field of which no member is left out or changed. -/
theorem commutes_other {fields : List (String × Bool × Schema)}
    (h : ∀ value, drop name value = false ∧ change name value = value)
    (h' : ∀ value, drop' name value = false ∧ change' name value = value) (value : Option Json) :
    Commutes (valueAt fields name) (tidied drop change name) (tidied drop' change' name) value :=
  commutes_of_unchanged (Json.Members.tidied_unchanged h value) fun out _ =>
    Json.Members.tidied_unchanged h' out

theorem commutes_absent (schema : Schema) :
    Commutes (fieldValue false schema) (tidied drop change name) (tidied drop' change' name)
      none := by
  have hread : fieldValue false schema none = .ok none := rfl
  exact commutes_of_eq rfl hread

/-- A field with a member that is neither left out nor null. -/
theorem commutes_some {schema : Schema} {tidy tidyRead : Json → Json} {value : Json}
    (h : Commutes (readValue schema) tidy tidyRead value) (hv : value ≠ .null)
    (ht : tidy value ≠ .null) (hk : tidied drop change name (some value) = some (tidy value))
    (hk' : ∀ json, readValue schema value = .ok json →
      tidied drop' change' name (some json) = some (tidyRead json)) :
    Commutes (fieldValue false schema) (tidied drop change name) (tidied drop' change' name)
      (some value) := by
  intro out
  rw [hk, fieldValue_some_iff, if_neg fun hn => ht hn.2]
  simp only [fieldValue_some_iff, if_neg fun hn : _ ∧ value = .null => hv hn.2]
  constructor
  · rintro ⟨json, hj, rfl⟩
    obtain ⟨direct, hd, rfl⟩ := (h json).1 hj
    exact ⟨some direct, ⟨direct, hd, rfl⟩, (hk' direct hd).symm⟩
  · rintro ⟨held, ⟨direct, hd, rfl⟩, rfl⟩
    exact ⟨tidyRead direct, (h _).2 ⟨direct, hd, rfl⟩, (hk' direct hd).symm⟩

/-- An optional field whose null is left out. -/
theorem commutes_null {schema : Schema} (hn : schema.admitsNull = true)
    (hd : ∀ value, drop name value = true ↔ value = .null) (hc : ∀ value, change name value = value)
    (h' : ∀ value, drop' name value = false ∧ change' name value = value) (value : Option Json) :
    Commutes (fieldValue false schema) (tidied drop change name) (tidied drop' change' name)
      value := by
  have hkept := Json.Members.tidied_unchanged h'
  cases value with
  | none => exact commutes_absent schema
  | some value =>
      by_cases hv : value = .null
      · have hread : fieldValue false schema (some value) = .ok none :=
          fieldValue_some_iff.2 (by simp [hn, hv, absent])
        refine commutes_of_eq ?_ hread
        rw [Json.Members.tidied_dropped ((hd value).2 hv)]
        rfl
      · have hne : drop name value = false := Bool.eq_false_iff.2 fun ht => hv ((hd value).1 ht)
        refine commutes_of_unchanged ?_ fun out _ => hkept out
        rw [Json.Members.tidied_kept hne, hc]

theorem readValue_bool_iff {value json : Json} :
    readValue .bool value = .ok json ↔ ∃ flag, value = .bool flag ∧ json = .bool flag := by
  cases value <;>
    simp [readValue, Json.toNode, read, readScalar, Json.Decode.bool, Except.map, eq_comm]

/-- An optional flag that is left out, before and after, if it is false. -/
theorem commutes_flag (hd : ∀ value, drop name value = true ↔ value = .bool false)
    (hc : ∀ value, change name value = value) (value : Option Json) :
    Commutes (fieldValue false .bool) (tidied drop change name) (tidied drop change name)
      value := by
  have hkept : ∀ value, value ≠ .bool false → tidied drop change name (some value) = some value := by
    intro value hv
    rw [Json.Members.tidied_kept (Bool.eq_false_iff.2 fun ht => hv ((hd value).1 ht)), hc]
  cases value with
  | none => exact commutes_absent .bool
  | some value =>
      by_cases hv : value = .bool false
      · have hread : fieldValue false .bool (some value) = .ok (some value) :=
          fieldValue_some_iff.2 (by simp [hv, readValue_bool_iff])
        refine commutes_of_eq ?_ hread
        rw [Json.Members.tidied_dropped ((hd value).2 hv)]
        rfl
      · refine commutes_of_unchanged (hkept value hv) fun out ho => ?_
        rw [fieldValue_some_iff] at ho
        split at ho
        · rw [ho]
          rfl
        · obtain ⟨json, hj, rfl⟩ := ho
          obtain ⟨flag, rfl, rfl⟩ := readValue_bool_iff.1 hj
          exact hkept _ hv

/-- An optional list that is left out, before and after, if it is empty. -/
theorem commutes_list {item : Schema} {tidyItem tidyRead : Json → Json}
    (hd : ∀ value, drop name value = true ↔ value = .arr [])
    (hd' : ∀ value, drop' name value = true ↔ value = .arr [])
    (hc : ∀ value, change name value = Json.mapItems tidyItem value)
    (hc' : ∀ value, change' name value = Json.mapItems tidyRead value) {value : Option Json}
    (h : ∀ items, value = some (.arr items) →
      ∀ value ∈ items, Commutes (readValue item) tidyItem tidyRead value) :
    Commutes (fieldValue false (.list item)) (tidied drop change name) (tidied drop' change' name)
      value := by
  have hkept : ∀ value, value ≠ .arr [] →
      tidied drop change name (some value) = some (Json.mapItems tidyItem value) := by
    intro value hv
    rw [Json.Members.tidied_kept (Bool.eq_false_iff.2 fun ht => hv ((hd value).1 ht)), hc]
  have hkept' : ∀ value, value ≠ .arr [] →
      tidied drop' change' name (some value) = some (Json.mapItems tidyRead value) := by
    intro value hv
    rw [Json.Members.tidied_kept (Bool.eq_false_iff.2 fun ht => hv ((hd' value).1 ht)), hc']
  cases value with
  | none => exact commutes_absent (.list item)
  | some value =>
      cases value with
      | null =>
          refine commutes_of_unchanged (hkept _ nofun) fun out ho => ?_
          rw [fieldValue_some_iff, if_pos ⟨rfl, rfl⟩] at ho
          rw [ho]
          rfl
      | arr items =>
          cases items with
          | nil =>
              have hread : fieldValue false (.list item) (some (.arr [])) = .ok (some (.arr [])) :=
                fieldValue_some_iff.2 (by simp [readValue, read_arr_iff])
              refine commutes_of_eq ?_ hread
              rw [Json.Members.tidied_dropped ((hd _).2 rfl),
                Json.Members.tidied_dropped ((hd' _).2 rfl)]
              rfl
          | cons first rest =>
              refine commutes_some (commutes_arr (h _ rfl)) nofun nofun (hkept _ nofun)
                fun json hj => ?_
              obtain ⟨values, hvalues, rfl⟩ := read_arr_iff.1 hj
              refine hkept' _ ?_
              cases hvalues
              nofun
      | _ =>
          refine commutes_of_unread (fun out ho => ?_) (hkept _ nofun)
          rw [fieldValue_some_iff, if_neg (by simp)] at ho
          obtain ⟨json, hj, -⟩ := ho
          obtain ⟨items, hitems⟩ := exists_arr_of_read hj
          cases hitems

end Tidy

end BuildScheduler.Kubernetes.Schema
