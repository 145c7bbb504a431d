import BuildScheduler.Proofs.Json.Updates

/-!
# Values that are read back

A value is read back by a decoder if what is written of it is decoded as that value. Records are
read back if their parts are, and so are lists and options; what is read back as a value is read
back from its text too.
-/

namespace BuildScheduler.Json

/-! ## Depths -/

/-- The value can be printed with room for that many compounds inside each other. -/
def PlainAt (value : Json) (depth : Nat) : Prop := ∀ room, depth ≤ room → value.Plain room

theorem PlainAt.mono {value : Json} {depth more : Nat} (h : value.PlainAt depth)
    (hd : depth ≤ more) : value.PlainAt more := fun room hr => h room (Nat.le_trans hd hr)

theorem plainItems_iff {items : List Json} {room : Nat} :
    PlainItems items room ↔ ∀ item ∈ items, item.Plain room := by
  induction items with
  | nil => simp [PlainItems]
  | cons item rest ih => rw [PlainItems, ih, List.forall_mem_cons]

theorem plainMembers_iff {members : List (String × Json)} {room : Nat} :
    PlainMembers members room ↔ ∀ member ∈ members, member.2.Plain room := by
  induction members with
  | nil => simp [PlainMembers]
  | cons member rest ih => rw [PlainMembers, ih, List.forall_mem_cons]

theorem plainAt_arr {items : List Json} {depth : Nat} (h : ∀ item ∈ items, item.PlainAt depth) :
    (Json.arr items).PlainAt (depth + 1) := by
  intro room hr
  obtain ⟨below, rfl⟩ := Nat.exists_eq_add_of_lt (Nat.lt_of_succ_le hr)
  rw [Plain, plainItems_iff]
  exact fun item hm => h item hm _ (Nat.le_add_right depth below)

/-- The members of an object are among those it is made of. -/
theorem Members.mem_of_mem_insert {name : String} {value : Json} {members : Members}
    {member : String × Json} (h : member ∈ Members.insert name value members) :
    member = (name, value) ∨ member ∈ members := by
  induction members with
  | nil => exact .inl (List.mem_singleton.1 h)
  | cons head rest ih =>
      rw [Members.insert] at h
      split at h
      · exact List.mem_cons.1 h
      split at h
      · exact (List.mem_cons.1 h).imp_right (List.mem_cons_of_mem head)
      · rcases List.mem_cons.1 h with he | hm
        · exact .inr (he ▸ List.mem_cons_self)
        · exact (ih hm).imp_right (List.mem_cons_of_mem _)

theorem Members.mem_of_mem_ofList {members : List (String × Json)} {member : String × Json}
    (h : member ∈ Members.ofList members) : member ∈ members := by
  induction members using List.reverseRecOn with
  | nil => cases h
  | append_singleton members last ih =>
      rw [Members.ofList_append_singleton] at h
      rcases Members.mem_of_mem_insert h with he | hm
      · exact List.mem_append_right _ (List.mem_singleton.2 he)
      · exact List.mem_append_left _ (ih hm)

theorem plainAt_object {members : List (String × Json)} {depth : Nat}
    (h : ∀ member ∈ members, member.2.PlainAt depth) :
    (Json.object members).PlainAt (depth + 1) := by
  intro room hr
  obtain ⟨below, rfl⟩ := Nat.exists_eq_add_of_lt (Nat.lt_of_succ_le hr)
  rw [object, Plain, plainMembers_iff]
  exact fun member hm => h member (Members.mem_of_mem_ofList hm) _ (Nat.le_add_right depth below)

/-! ## Reading back -/

/-- The value is decoded as what was written, and can be printed. -/
structure ReadBack (decode : Decoder α) (depth : Nat) (value : Json) (written : α) : Prop where
  plain : value.PlainAt depth
  read : decode value.toNode = .ok written

namespace ReadBack

variable {decode : Decoder α} {depth : Nat} {value : Json} {written : α}

theorem mono (h : ReadBack decode depth value written) {more : Nat} (hd : depth ≤ more) :
    ReadBack decode more value written := ⟨h.plain.mono hd, h.read⟩

theorem string (text : String) : ReadBack Decode.string 0 (.str text) text :=
  ⟨fun room _ => by simp [Plain], rfl⟩

/-- A number between the bounds of its type. -/
theorem nat {count bound : Nat} {wanted : String} (h : count ≤ bound)
    (hb : bound ≤ 18446744073709551615) :
    ReadBack (fun node => (Decode.integer 0 bound wanted node).map Int.toNat) 0 (.int count) count
      where
  plain room _ := by
    rw [Plain, IsInteger]
    omega
  read := by
    show (Decode.integer 0 bound wanted (.int count)).map Int.toNat = .ok count
    rw [Decode.integer, if_pos (by omega)]
    rfl

theorem some (h : ReadBack decode depth value written) (hn : value ≠ .null) :
    ReadBack (Decode.option decode) depth value (some written) :=
  ⟨h.plain, Decode.option_ok_iff.2 (.inr ⟨hn, written, h.read, rfl⟩)⟩

theorem option {toJson : α → Json} {found : Option α}
    (h : ∀ content ∈ found, ReadBack decode depth (toJson content) content)
    (hn : ∀ content, toJson content ≠ .null) :
    ReadBack (Decode.option decode) depth ((found.map toJson).getD .null) found := by
  cases found with
  | none => exact ⟨fun room _ => by simp [Plain], rfl⟩
  | some content => exact (h content rfl).some (hn content)

theorem list {toJson : α → Json} {found : List α}
    (h : ∀ item ∈ found, ReadBack decode depth (toJson item) item) :
    ReadBack (Decode.list decode) (depth + 1) (.arr (found.map toJson)) found where
  plain := plainAt_arr (List.forall_mem_map.2 fun item hm => (h item hm).plain)
  read := Decode.list_ok_iff.2 ⟨_, rfl,
    List.forall₂_map_left_iff.2 (List.forall₂_same.2 fun item hm => (h item hm).read)⟩

/-- What is read back from its value is read back from its text. -/
theorem readText (h : ReadBack decode depth value written) (hd : depth ≤ 127) :
    readText decode value.render = .ok written := by
  unfold Json.readText Document.read
  rw [ofText_render (h.plain 127 hd), h.read]
  rfl

end ReadBack

/-! ## Records -/

structure Update.ReadBack (record : Record α) (depth : Nat) (update : Update α) : Prop where
  reads : update.Reads record
  plain : update.value.PlainAt depth

/-- A part is read back if its field writes what a decoder reads and its value is read back. -/
theorem Update.ReadBack.of_field {record : Record α} {depth : Nat} {update : Update α}
    {field : Field α} {decode : Decoder β} {content : β} {write : β → α → α}
    (h : Json.ReadBack decode depth update.value content)
    (hf : record.fields.find? (·.name == update.name) = some field)
    (hw : field.read = fun node before => do pure (write (← decode node) before))
    (ha : update.apply = write content) : Update.ReadBack record depth update where
  reads := by
    refine ⟨field, hf, fun before => ?_⟩
    rw [hw, ha]
    exact bind_ok_iff.2 ⟨content, h.read, rfl⟩
  plain := h.plain

theorem forall_mem_toList_map {found : Option β} {f : β → γ} {P : γ → Prop}
    (h : ∀ content ∈ found, P (f content)) : ∀ item ∈ (found.map f).toList, P item := by
  cases found with
  | none => nofun
  | some content => exact List.forall_mem_singleton.2 (h content rfl)

/-- A record is read back if each of its parts is, and the updates together make the record of a
blank one. -/
theorem ReadBack.record {record : Record α} {depth : Nat} {written : α} {updates : List (Update α)}
    (hr : ∀ update ∈ updates, update.ReadBack record depth)
    (hn : (updates.map Update.name).Nodup) (hc : updates.Pairwise Update.Commutes)
    (hq : ∀ field ∈ record.fields, field.presence = .required →
      field.name ∈ updates.map Update.name)
    (hw : Update.run updates record.blank = written) :
    ReadBack record.decode (depth + 1) (object (updates.map Update.member)) written where
  plain := plainAt_object (List.forall_mem_map.2 fun update hm => (hr update hm).plain)
  read := by
    rw [Record.decode_object (fun update hm => (hr update hm).reads) hn hc hq, hw]

end BuildScheduler.Json
