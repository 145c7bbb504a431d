import BuildScheduler.Proofs.Json.Records
import BuildScheduler.Proofs.Json.Reading

/-!
# Records that are written whole

A record is written as an object of its parts, and the object has its members in the order of their
names. Each member that is read is an update of the record. Updates of different parts do not get
in each other's way, so the order does not count, and what is read of the object are all updates,
done to the blank record.

What every field of a record keeps holds of each record that is read, in whatever form.
-/

namespace BuildScheduler.Json

variable {α : Type}

/-- A part of a record as it is written, and what reading it does to a record. -/
structure Update (α : Type) where
  name : String
  value : Json
  apply : α → α

namespace Update

def member (update : Update α) : String × Json := (update.name, update.value)

def run (updates : List (Update α)) (before : α) : α :=
  updates.foldl (fun record update => update.apply record) before

def Reads (record : Record α) (update : Update α) : Prop :=
  ∃ field, record.fields.find? (·.name == update.name) = some field ∧
    ∀ before, field.read update.value.toNode before = .ok (update.apply before)

def Commutes (first second : Update α) : Prop :=
  ∀ before, second.apply (first.apply before) = first.apply (second.apply before)

theorem run_perm {updates others : List (Update α)} (h : updates.Perm others)
    (hc : updates.Pairwise Commutes) (before : α) : run updates before = run others before := by
  have hsame : ∀ update ∈ updates, Commutes update update := fun _ _ _ => rfl
  have hflip : updates.Pairwise (flip Commutes) := hc.imp fun hboth before => (hboth before).symm
  have hall : ∀ first ∈ updates, ∀ second ∈ updates, Commutes first second :=
    List.Pairwise.forall_of_forall_of_flip hsame hc hflip
  exact h.foldl_eq' (fun first hf second hs before => hall first hf second hs before) before

/-! ## Members in the order of their names -/

/-- A new name is inserted at its place. -/
theorem exists_perm_insert (update : Update α) {updates : List (Update α)}
    (hn : update.name ∉ updates.map name) : ∃ others : List (Update α),
      others.Perm (update :: updates) ∧
        Members.insert update.name update.value (updates.map member) = others.map member := by
  induction updates with
  | nil => exact ⟨[update], .rfl, rfl⟩
  | cons first rest ih =>
      rw [List.map_cons, List.mem_cons, not_or] at hn
      obtain ⟨others, hp, ho⟩ := ih hn.2
      rw [List.map_cons, member, Members.insert, if_neg hn.1, ho]
      by_cases hlt : update.name < first.name
      · rw [if_pos hlt]
        exact ⟨update :: first :: rest, .rfl, rfl⟩
      · rw [if_neg hlt]
        exact ⟨first :: others, (hp.cons first).trans (.swap update first rest), rfl⟩

theorem exists_perm_ofList (updates : List (Update α)) (hn : (updates.map name).Nodup) :
    ∃ others : List (Update α), others.Perm updates ∧
      Members.ofList (updates.map member) = others.map member := by
  induction updates using List.reverseRecOn with
  | nil => exact ⟨[], .rfl, rfl⟩
  | append_singleton updates update ih =>
      rw [List.map_append, List.nodup_append'] at hn
      obtain ⟨others, hp, ho⟩ := ih hn.1
      have hnew : update.name ∉ others.map name := by
        intro hm
        exact hn.2.2 ((hp.map name).mem_iff.1 hm) (List.mem_singleton_self _)
      obtain ⟨inserted, hi, he⟩ := exists_perm_insert update hnew
      refine ⟨inserted, hi.trans ((hp.cons update).trans (List.perm_append_singleton _ _).symm), ?_⟩
      rw [List.map_append, List.map_singleton, Members.ofList_append_singleton, ho]
      exact he

end Update

namespace Record

variable {record : Record α}

/-- Members are read as the updates that they are, in the order in which they stand. -/
theorem readMembers_updates {updates : List (Update α)}
    (hr : ∀ update ∈ updates, update.Reads record)
    (hn : (updates.map Update.name).Nodup) (before : α) {seen : List String}
    (hs : ∀ update ∈ updates, update.name ∉ seen) :
    record.readMembers (memberNodes (updates.map Update.member)) before seen =
      .ok (Update.run updates before, (updates.map Update.name).reverse ++ seen) := by
  induction updates generalizing before seen with
  | nil => rfl
  | cons update rest ih =>
      obtain ⟨⟨field, hf, hread⟩, hrest⟩ := List.forall_mem_cons.1 hr
      obtain ⟨hnew, hn⟩ := List.nodup_cons.1 hn
      obtain ⟨hfirst, hs⟩ := List.forall_mem_cons.1 hs
      have hlater : ∀ other ∈ rest, other.name ∉ update.name :: seen := by
        intro other ho
        rw [List.mem_cons, not_or]
        exact ⟨fun he => hnew (he ▸ List.mem_map_of_mem ho), hs other ho⟩
      refine (readMembers_field hf).2 ⟨hfirst, update.apply before, hread before, ?_⟩
      rw [ih hrest hn (update.apply before) hlater, List.map_cons, List.reverse_cons,
        List.append_assoc]
      rfl

/-- What is read of a record that is written whole. -/
theorem decode_object {updates : List (Update α)} (hr : ∀ update ∈ updates, update.Reads record)
    (hn : (updates.map Update.name).Nodup) (hc : updates.Pairwise Update.Commutes)
    (hq : ∀ field ∈ record.fields, field.presence = .required →
      field.name ∈ updates.map Update.name) :
    record.decode (object (updates.map Update.member)).toNode =
      .ok (Update.run updates record.blank) := by
  obtain ⟨others, hp, ho⟩ := Update.exists_perm_ofList updates hn
  have hread := readMembers_updates (fun update hm => hr update (hp.mem_iff.1 hm))
    ((hp.map Update.name).nodup_iff.2 hn) record.blank (fun _ _ => List.not_mem_nil)
  rw [object, ho, decode_obj_iff, Update.run_perm hp.symm hc]
  refine ⟨_, hread, fun field hm hpresence => ?_⟩
  rw [List.append_nil, List.mem_reverse, (hp.map Update.name).mem_iff]
  exact hq field hm hpresence

/-! ## What every reading keeps -/

section Keeps

variable {keeps : α → Prop} (hb : keeps record.blank)
  (hf : ∀ field ∈ record.fields, ∀ node before after,
    keeps before → field.read node before = .ok after → keeps after)
  (hk : ∀ keep, record.unknown = .kept keep → ∀ name value before, ¬ record.Knows name →
    keeps before → keeps (keep name value before))

include hf hk in
theorem keeps_of_readMembers {members : List (Option String × Node)} {before after : α}
    {seen later : List String} (h : keeps before)
    (hr : record.readMembers members before seen = .ok (after, later)) : keeps after := by
  induction members generalizing before seen with
  | nil =>
      cases hr
      exact h
  | cons member rest ih =>
      obtain ⟨name, node⟩ := member
      cases name with
      | none => cases hr
      | some name =>
          rw [readMembers] at hr
          cases hfind : record.fields.find? (·.name == name) with
          | some field =>
              rw [hfind] at hr
              dsimp only at hr
              split at hr
              · cases hr
              · obtain ⟨next, hread, hr⟩ := bind_ok_iff.1 hr
                exact ih (hf field (of_find?_eq_some hfind).1 node before next h hread) hr
          | none =>
              rw [hfind] at hr
              dsimp only at hr
              cases hu : record.unknown with
              | skipped =>
                  rw [hu] at hr
                  obtain ⟨-, -, hr⟩ := bind_ok_iff.1 hr
                  exact ih h hr
              | refused =>
                  rw [hu] at hr
                  cases hr
              | kept keep =>
                  rw [hu] at hr
                  obtain ⟨value, -, hr⟩ := bind_ok_iff.1 hr
                  exact ih (hk keep hu name value before (find?_eq_none_iff.1 hfind) h) hr

theorem keeps_of_readItems {title : String} {total : Nat} {fields : List (Field α)}
    (hf : ∀ field ∈ fields, ∀ node before after,
      keeps before → field.read node before = .ok after → keeps after)
    {items : List Node} {tail : Option Fault} {before after : α} (h : keeps before)
    (hr : readItems title total fields items tail before = .ok after) : keeps after := by
  induction fields generalizing items before tail with
  | nil =>
      cases items with
      | nil =>
          obtain ⟨-, -, hr⟩ := bind_ok_iff.1 hr
          cases hr
          exact h
      | cons item items => cases hr
  | cons field fields ih =>
      obtain ⟨hfirst, hrest⟩ := List.forall_mem_cons.1 hf
      cases items with
      | cons item items =>
          obtain ⟨next, hread, hr⟩ := bind_ok_iff.1 hr
          exact ih hrest (hfirst item before next h hread) hr
      | nil =>
          cases tail with
          | some cause => cases hr
          | none =>
              rw [readItems] at hr
              split at hr
              · exact ih hrest h hr
              · cases hr

include hb hf hk in
/-- What holds of the blank record and is kept by every member holds of each record read. -/
theorem keeps_of_decode {node : Node} {after : α} (h : record.decode node = .ok after) :
    keeps after := by
  cases node with
  | obj members tail =>
      obtain ⟨⟨other, seen⟩, hr, h⟩ := bind_ok_iff.1 h
      obtain ⟨-, -, h⟩ := bind_ok_iff.1 h
      split at h
      · cases h
      · cases h
        exact keeps_of_readMembers hf hk hb hr
  | arr items tail =>
      rw [decode] at h
      split at h
      · cases h
      · exact keeps_of_readItems hf hb h
  | deep node =>
      rw [decode.eq_def] at h
      dsimp only at h
      split at h
      · cases h
      · cases h
  | _ => simp [decode] at h

end Keeps

/-! ## What is kept of other members -/

/-- These members are none of the record's fields, and stand in the order of their names. -/
structure Passes (record : Record α) (extra : Members) : Prop where
  sorted : extra.Sorted
  lookup : ∀ name, record.Knows name → extra.lookup name = none

theorem passes_nil (record : Record α) : record.Passes [] := ⟨Members.sorted_nil, fun _ _ => rfl⟩

theorem HasRest.passes_of_decode {keep : String → Json → α → α} {part : α → Members}
    (hp : record.HasRest keep part) (hu : record.unknown = .kept keep)
    (hblank : part record.blank = []) {node : Node} {after : α}
    (h : record.decode node = .ok after) : record.Passes (part after) := by
  refine @keeps_of_decode _ record (fun found => record.Passes (part found)) ?_ ?_ ?_ _ _ h
  · rw [hblank]
    exact record.passes_nil
  · intro field hm node before after hb hread
    rw [hp.fields field hm node before after hread]
    exact hb
  · intro other ho name value before hn hb
    obtain rfl : keep = other := Unknown.kept.inj (hu.symm.trans ho)
    rw [hp.kept]
    refine ⟨hb.sorted.insert _ _, fun known hk => ?_⟩
    have hne : known ≠ name := fun he => hn (he ▸ hk)
    rw [Members.lookup_insert, if_neg hne]
    exact hb.lookup known hk

/-- What holds of everything that is decoded for a part holds of the part. -/
theorem HasPart.holds_of_decode {β : Type} {keep : String → Json → α → α} {name : String}
    {decode : Decoder β} {part : α → β} (hp : record.HasPart keep name decode part)
    (hu : ∀ other, record.unknown = .kept other → other = keep) {P : β → Prop}
    (hblank : P (part record.blank))
    (hd : ∀ node found, decode node = .ok found → P found) {node : Node} {after : α}
    (h : record.decode node = .ok after) : P (part after) := by
  refine @keeps_of_decode _ record (fun found => P (part found)) hblank ?_ ?_ _ _ h
  · intro field hm node before after hb hread
    by_cases hn : field.name = name
    · exact hd node _ (hp.own field hm hn node before after hread)
    · rw [hp.other field hm hn node before after hread]
      exact hb
  · intro other ho name value before _ hb
    rw [hu other ho, hp.kept]
    exact hb

end Record

/-! ## Lists and options -/

namespace Decode

variable {decode : Decoder α} {keeps : α → Prop}

theorem keeps_of_list (hd : ∀ node found, decode node = .ok found → keeps found) {node : Node}
    {found : List α} (h : list decode node = .ok found) : ∀ item ∈ found, keeps item := by
  cases node with
  | arr items tail =>
      obtain ⟨values, hv, h⟩ := bind_ok_iff.1 h
      obtain ⟨-, -, h⟩ := bind_ok_iff.1 h
      cases h
      exact forall_mem_of_forall₂ (mapM_ok_iff.1 hv) hd
  | deep node => cases node <;> cases h
  | _ => cases h

theorem keeps_of_option (hd : ∀ node found, decode node = .ok found → keeps found) {node : Node}
    {found : Option α} (h : option decode node = .ok found) : ∀ item ∈ found, keeps item := by
  cases found with
  | none => nofun
  | some content =>
      intro item hm
      cases hm
      cases node with
      | null => cases h
      | _ =>
          obtain ⟨other, ho, he⟩ := map_ok_iff.1 h
          exact hd _ _ (Option.some.inj he ▸ ho)

end Decode

end BuildScheduler.Json
