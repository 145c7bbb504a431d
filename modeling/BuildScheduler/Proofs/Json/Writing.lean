import BuildScheduler.Proofs.Json.Values

/-!
# Members that are left out

A record is written without the parts that are at their defaults, followed by what it keeps of other
members. On values the same is done by `tidy`: it leaves members of an object out and changes the
values of the others. Both are known by their lookups.
-/

namespace BuildScheduler.Json

namespace Members

/-! ## Records as they are written -/

def written (parts : List (String × Option Json)) : List (String × Json) :=
  parts.flatMap fun part => (part.2.map (part.1, ·)).toList

theorem lookup_written {parts : List (String × Option Json)} (hn : (parts.map (·.1)).Nodup)
    (name : String) : (written parts).lookup name = (parts.lookup name).join := by
  induction parts with
  | nil => rfl
  | cons part rest ih =>
      obtain ⟨hnew, hrest⟩ := List.nodup_cons.1 hn
      rw [written, List.flatMap_cons, List.lookup_append, lookup_cons]
      have hl : (rest.flatMap fun part => (part.2.map (part.1, ·)).toList).lookup name = _ :=
        ih hrest
      rw [hl]
      by_cases he : name = part.1
      · subst he
        rw [if_pos rfl, lookup_eq_none_iff.2 hnew]
        cases part.2 with
        | none => rfl
        | some value => simp
      · rw [if_neg he]
        cases part.2 with
        | none => rfl
        | some value => simp [lookup_cons, he]

/-- A record that keeps members of other names holds its parts under their names and the others as
they are. -/
theorem lookup_ofList_written {parts : List (String × Option Json)} {extra : Members}
    (hn : (parts.map (·.1)).Nodup) (hs : extra.Sorted)
    (hd : ∀ name ∈ parts.map (·.1), extra.lookup name = none) (name : String) :
    (ofList (written parts ++ extra)).lookup name =
      ((parts.lookup name).join).or (extra.lookup name) := by
  have hnames : ((written parts ++ extra).map (·.1)).Nodup := by
    have hw : ((written parts).map (·.1)).Sublist (parts.map (·.1)) := by
      clear hn hd
      induction parts with
      | nil => exact List.Sublist.slnil
      | cons part rest ih =>
          rw [written, List.flatMap_cons, List.map_append, List.map_cons]
          cases part.2 with
          | none => exact ih.cons _
          | some value => exact ih.cons_cons _
    rw [List.map_append, List.nodup_append']
    refine ⟨hw.nodup hn, hs.nodup, fun other hm he => ?_⟩
    exact lookup_eq_none_iff.1 (hd other (hw.subset hm)) he
  rw [lookup_ofList hnames, List.lookup_append, lookup_written hn]

/-! ## Leaving members out -/

/-- What stands under a name after tidying: nothing if the member is dropped. -/
def tidied (drop : String → Json → Bool) (change : String → Json → Json) (name : String)
    (value : Option Json) : Option Json :=
  (value.filter fun value => !drop name value).map (change name)

theorem tidied_dropped {drop : String → Json → Bool} {change : String → Json → Json}
    {name : String} {value : Json} (h : drop name value = true) :
    tidied drop change name (some value) = none := by
  rw [tidied, Option.filter_some, h]
  rfl

theorem tidied_kept {drop : String → Json → Bool} {change : String → Json → Json} {name : String}
    {value : Json} (h : drop name value = false) :
    tidied drop change name (some value) = some (change name value) := by
  rw [tidied, Option.filter_some, h]
  rfl

theorem tidied_unchanged {drop : String → Json → Bool} {change : String → Json → Json}
    {name : String} (h : ∀ value, drop name value = false ∧ change name value = value)
    (value : Option Json) : tidied drop change name value = value := by
  cases value with
  | none => rfl
  | some value => rw [tidied_kept (h value).1, (h value).2]

def tidy (drop : String → Json → Bool) (change : String → Json → Json) (members : Members) :
    Members :=
  (members.filter fun member => !drop member.1 member.2).map fun member =>
    (member.1, change member.1 member.2)

section Tidy

variable {drop : String → Json → Bool} {change : String → Json → Json} {members : Members}

theorem Sorted.tidy (h : members.Sorted) : Sorted (members.tidy drop change) :=
  (h.filter _).mapValues change

theorem lookup_tidy (h : members.Sorted) (name : String) :
    (members.tidy drop change).lookup name = tidied drop change name (members.lookup name) := by
  rw [Members.tidy, lookup_map, lookup_filter h.nodup, tidied]

theorem canonical_tidy (hc : ∀ member ∈ members, member.2.Canonical)
    (hk : ∀ member ∈ members, member.2.Canonical → (change member.1 member.2).Canonical) :
    ∀ member ∈ members.tidy drop change, member.2.Canonical := by
  intro member hm
  obtain ⟨other, ho, rfl⟩ := List.mem_map.1 hm
  have hin := (List.mem_filter.1 ho).1
  exact hk other hin (hc other hin)

/-- Members that are neither dropped nor changed stand as they did. -/
theorem filter_tidy (kept : String → Bool)
    (hk : ∀ name value, kept name = true → drop name value = false ∧ change name value = value) :
    (members.tidy drop change).filter (fun member => kept member.1) =
      members.filter fun member => kept member.1 := by
  induction members with
  | nil => rfl
  | cons member rest ih =>
      rw [Members.tidy, List.filter_cons]
      cases h : kept member.1 with
      | true =>
          obtain ⟨hd, hc⟩ := hk member.1 member.2 h
          rw [hd, Bool.not_false, if_pos rfl, List.map_cons, hc, List.filter_cons, List.filter_cons,
            if_pos h, if_pos h]
          exact congrArg _ ih
      | false =>
          rw [List.filter_cons_of_neg (by simp [h])]
          split
          · rw [List.map_cons, List.filter_cons_of_neg (by simp [h])]
            exact ih
          · exact ih

end Tidy

end Members

/-- An object without the members that are dropped, the values of the others changed. -/
def tidy (drop : String → Json → Bool) (change : String → Json → Json) : Json → Json
  | .obj members => .obj (Members.tidy drop change members)
  | value => value

def mapItems (change : Json → Json) : Json → Json
  | .arr items => .arr (items.map change)
  | value => value

theorem tidy_nothing (value : Json) :
    tidy (fun _ _ => false) (fun _ value => value) value = value := by
  cases value with
  | obj members => simp [tidy, Members.tidy]
  | _ => rfl

theorem mapItems_unchanged {change : Json → Json} (h : ∀ value, change value = value)
    (value : Json) : mapItems change value = value := by
  cases value with
  | arr items => rw [mapItems, List.map_congr_left fun item _ => h item, List.map_id']
  | _ => rfl

theorem Canonical.tidy {drop : String → Json → Bool} {change : String → Json → Json}
    (hk : ∀ name value, value.Canonical → (change name value).Canonical) {value : Json}
    (h : value.Canonical) : (tidy drop change value).Canonical := by
  cases value with
  | obj members =>
      obtain ⟨hs, hc⟩ := canonical_obj.1 h
      exact canonical_obj.2 ⟨hs.tidy, Members.canonical_tidy hc fun member _ => hk member.1 member.2⟩
  | _ => exact h

theorem Canonical.mapItems {change : Json → Json}
    (hk : ∀ value, value.Canonical → (change value).Canonical) {value : Json}
    (h : value.Canonical) : (mapItems change value).Canonical := by
  cases value with
  | arr items =>
      refine canonical_arr.2 fun item hm => ?_
      obtain ⟨other, ho, rfl⟩ := List.mem_map.1 hm
      exact hk other (canonical_arr.1 h other ho)
  | _ => exact h

/-! ## Writing what was read -/

section Written

variable {drop : String → Json → Bool} {change : String → Json → Json} {members : Members}

/-- A record whose parts are what tidying makes of the members of their names, and which keeps the
members of other names, is written as the tidied object. -/
theorem object_written {parts : List (String × Option Json)} {known : String → Prop}
    [DecidablePred known] (hs : members.Sorted) (hn : (parts.map (·.1)).Nodup)
    (hk : ∀ name, known name ↔ name ∈ parts.map (·.1))
    (hp : ∀ part ∈ parts, Members.tidied drop change part.1 (members.lookup part.1) = part.2)
    (hrest : ∀ name value, ¬ known name → drop name value = false ∧ change name value = value) :
    object (Members.written parts ++ members.filter fun member => ¬ known member.1) =
      .obj (members.tidy drop change) := by
  rw [object]
  congr 1
  refine (Members.sorted_ofList _).ext hs.tidy fun name => ?_
  have hextra : ∀ name, (members.filter fun member => ¬ known member.1).lookup name =
      (members.lookup name).filter fun _ => ¬ known name := lookup_filter hs.nodup _
  rw [Members.lookup_ofList_written hn (hs.filter _)
      (fun name hm => by rw [hextra]; simp [(hk name).2 hm]),
    Members.lookup_tidy hs, hextra]
  by_cases h : known name
  · obtain ⟨part, hm, rfl⟩ := List.mem_map.1 ((hk name).1 h)
    have hl : parts.lookup part.1 = some part.2 := lookup_of_mem hn hm
    rw [hl, hp part hm]
    simp [h]
  · have hl : parts.lookup name = none := lookup_eq_none_iff.2 fun hm => h ((hk name).2 hm)
    rw [hl]
    cases members.lookup name with
    | none => rfl
    | some value =>
        obtain ⟨hd, hc⟩ := hrest name value h
        rw [Members.tidied_kept hd, hc]
        simp [h]

end Written

end BuildScheduler.Json
