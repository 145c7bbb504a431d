import Mathlib.Data.List.Induction
import Mathlib.Data.List.Nodup
import Mathlib.Data.String.Basic
import BuildScheduler.Json.Basic

/-!
# Members of objects

The members of an object stand in the order of their names, so an object is known by what is looked
up under each name: two lists of members in order are equal if every lookup is. An object that was
written member by member is compared in this way with one that was read, whatever the order in
which the members came.
-/

namespace BuildScheduler.Json

/-! ## Lookup -/

section Lookup

variable {β γ : Type}

theorem lookup_cons (name other : String) (value : β) (rest : List (String × β)) :
    ((other, value) :: rest).lookup name =
      if name = other then some value else rest.lookup name := by
  rw [List.lookup_cons]
  by_cases h : name = other
  · simp [h]
  · rw [if_neg h, beq_false_of_ne h]

theorem lookup_eq_none_iff {list : List (String × β)} {name : String} :
    list.lookup name = none ↔ name ∉ list.map (·.1) := by
  induction list with
  | nil => simp
  | cons head rest ih =>
      rw [lookup_cons, List.map_cons, List.mem_cons, not_or, ← ih]
      by_cases h : name = head.1
      · simp [h]
      · simp [h]

/-- What is looked up stands in the list; with distinct names the converse holds. -/
theorem mem_of_lookup {list : List (String × β)} {name : String} {value : β}
    (h : list.lookup name = some value) : (name, value) ∈ list := by
  obtain ⟨before, after, rfl, -⟩ := List.lookup_eq_some_iff.1 h
  simp

theorem lookup_of_mem {list : List (String × β)} (hn : (list.map (·.1)).Nodup) {name : String}
    {value : β} (h : (name, value) ∈ list) : list.lookup name = some value := by
  induction list with
  | nil => cases h
  | cons head rest ih =>
      obtain ⟨hnew, hrest⟩ := List.nodup_cons.1 hn
      rw [lookup_cons]
      obtain rfl | hm := List.mem_cons.1 h
      · rw [if_pos rfl]
      · have hne : name ≠ head.1 := by
          rintro rfl
          exact hnew (List.mem_map_of_mem (f := (·.1)) hm)
        rw [if_neg hne, ih hrest hm]

theorem lookup_map (change : String → β → γ) (list : List (String × β)) (name : String) :
    (list.map fun member => (member.1, change member.1 member.2)).lookup name =
      (list.lookup name).map (change name) := by
  induction list with
  | nil => rfl
  | cons head rest ih =>
      rw [List.map_cons, lookup_cons, lookup_cons, ih]
      by_cases h : name = head.1
      · rw [if_pos h, if_pos h, h, Option.map_some]
      · rw [if_neg h, if_neg h]

theorem lookup_filter {list : List (String × β)} (hn : (list.map (·.1)).Nodup)
    (kept : String × β → Bool) (name : String) :
    (list.filter kept).lookup name = (list.lookup name).filter fun value => kept (name, value) := by
  induction list with
  | nil => rfl
  | cons head rest ih =>
      obtain ⟨hnew, hrest⟩ := List.nodup_cons.1 hn
      rw [List.filter_cons, lookup_cons]
      by_cases h : name = head.1
      · subst h
        rw [if_pos rfl, Option.filter_some]
        split
        · rw [lookup_cons, if_pos rfl]
        · rw [ih hrest, lookup_eq_none_iff.2 hnew, Option.filter_none]
      · rw [if_neg h, ← ih hrest]
        split
        · rw [lookup_cons, if_neg h]
        · rfl

end Lookup

namespace Members

/-! ## Order -/

def Sorted (members : Members) : Prop := (members.map (·.1)).Pairwise (· < ·)

theorem sorted_nil : Sorted [] := List.Pairwise.nil

theorem sorted_cons {head : String × Json} {rest : Members} :
    Sorted (head :: rest) ↔ (∀ name ∈ rest.map (·.1), head.1 < name) ∧ Sorted rest :=
  List.pairwise_cons

theorem Sorted.nodup {members : Members} (h : members.Sorted) : (members.map (·.1)).Nodup :=
  h.imp fun hlt => ne_of_lt hlt

theorem Sorted.filter {members : Members} (h : members.Sorted) (kept : String × Json → Bool) :
    Sorted (members.filter kept) :=
  h.sublist (List.filter_sublist.map _)

theorem Sorted.mapValues {members : Members} (h : members.Sorted) (change : String → Json → Json) :
    Sorted (members.map fun member => (member.1, change member.1 member.2)) := by
  rw [Sorted, List.map_map]
  exact h

/-- Members in order are known by their lookups. -/
theorem Sorted.ext {a b : Members} (ha : a.Sorted) (hb : b.Sorted)
    (h : ∀ name, a.lookup name = b.lookup name) : a = b := by
  induction a generalizing b with
  | nil =>
      cases b with
      | nil => rfl
      | cons head rest =>
          have hl := h head.1
          rw [lookup_cons, if_pos rfl] at hl
          cases hl
  | cons head rest ih =>
      cases b with
      | nil =>
          have hl := h head.1
          rw [lookup_cons, if_pos rfl] at hl
          cases hl
      | cons other more =>
          obtain ⟨hhead, hrest⟩ := sorted_cons.1 ha
          obtain ⟨hother, hmore⟩ := sorted_cons.1 hb
          -- each of the two first names is found in the other list, so neither is the smaller one
          have hfirst : ∀ {x y : String × Json} {xs ys : Members},
              (∀ name, List.lookup name (x :: xs) = List.lookup name (y :: ys)) →
                (∀ name ∈ ys.map (·.1), y.1 < name) → ¬ x.1 < y.1 := by
            intro x y xs ys hxy hys hlt
            have hl := hxy x.1
            rw [lookup_cons, if_pos rfl] at hl
            have hm : x.1 ∈ (y :: ys).map (·.1) := by
              by_contra hn
              rw [lookup_eq_none_iff.2 hn] at hl
              cases hl
            obtain he | hm := List.mem_cons.1 hm
            · exact absurd hlt (he ▸ lt_irrefl _)
            · exact lt_asymm hlt (hys _ hm)
          have hname : head.1 = other.1 :=
            le_antisymm (not_lt.1 (hfirst (fun name => (h name).symm) hhead))
              (not_lt.1 (hfirst h hother))
          have hvalue := h head.1
          rw [lookup_cons, if_pos rfl, lookup_cons, if_pos hname, Option.some.injEq] at hvalue
          have htail : rest = more := by
            refine ih hrest hmore fun name => ?_
            by_cases he : name = head.1
            · subst he
              rw [lookup_eq_none_iff.2 fun hm => lt_irrefl _ (hhead _ hm),
                lookup_eq_none_iff.2 fun hm => lt_irrefl _ (hname ▸ hother _ hm)]
            · have hl := h name
              rwa [lookup_cons, lookup_cons, if_neg he, if_neg (hname ▸ he)] at hl
          rw [Prod.ext hname hvalue, htail]

/-! ## Writing members -/

theorem lookup_insert (name : String) (value : Json) (members : Members) (other : String) :
    (insert name value members).lookup other =
      if other = name then some value else members.lookup other := by
  induction members with
  | nil => rw [insert, lookup_cons]
  | cons head rest ih =>
      rw [insert]
      split
      · rw [lookup_cons]
      · split
        · rename_i he
          rw [lookup_cons, lookup_cons, he]
          by_cases ho : other = head.1
          · rw [if_pos ho, if_pos ho]
          · rw [if_neg ho, if_neg ho, if_neg ho]
        · rename_i hne
          rw [lookup_cons, lookup_cons, ih]
          by_cases ho : other = head.1
          · rw [if_pos ho, if_pos ho, if_neg fun he => hne (he.symm.trans ho)]
          · rw [if_neg ho, if_neg ho]

theorem mem_names_insert {name other : String} {value : Json} {members : Members} :
    other ∈ (insert name value members).map (·.1) ↔ other = name ∨ other ∈ members.map (·.1) := by
  have hl := lookup_insert name value members other
  rw [← not_iff_not, not_or, ← lookup_eq_none_iff, ← lookup_eq_none_iff, hl]
  by_cases h : other = name
  · simp [h]
  · simp [h]

theorem Sorted.insert {members : Members} (h : members.Sorted) (name : String) (value : Json) :
    Sorted (insert name value members) := by
  induction members with
  | nil => exact List.pairwise_singleton _ _
  | cons head rest ih =>
      obtain ⟨hhead, hrest⟩ := sorted_cons.1 h
      rw [Members.insert]
      split
      · rename_i hlt
        refine sorted_cons.2 ⟨fun other hm => ?_, h⟩
        obtain rfl | hm := List.mem_cons.1 hm
        · exact hlt
        · exact lt_trans hlt (hhead other hm)
      · rename_i hle
        split
        · rename_i he
          subst he
          exact sorted_cons.2 ⟨hhead, hrest⟩
        · rename_i hne
          refine sorted_cons.2 ⟨fun other hm => ?_, ih hrest⟩
          obtain rfl | hm := mem_names_insert.1 hm
          · exact lt_of_le_of_ne (not_lt.1 hle) (Ne.symm hne)
          · exact hhead other hm

theorem ofList_append_singleton (members : List (String × Json)) (member : String × Json) :
    ofList (members ++ [member]) = insert member.1 member.2 (ofList members) := by
  rw [ofList, ofList, List.foldl_append]
  rfl

theorem sorted_ofList (members : List (String × Json)) : Sorted (ofList members) := by
  induction members using List.reverseRecOn with
  | nil => exact sorted_nil
  | append_singleton members member ih =>
      rw [ofList_append_singleton]
      exact ih.insert _ _

/-- Of members with distinct names each is found. -/
theorem lookup_ofList {members : List (String × Json)} (hn : (members.map (·.1)).Nodup)
    (name : String) : (ofList members).lookup name = members.lookup name := by
  induction members using List.reverseRecOn with
  | nil => rfl
  | append_singleton members member ih =>
      rw [List.map_append, List.nodup_append'] at hn
      obtain ⟨hfirst, -, hdisjoint⟩ := hn
      rw [ofList_append_singleton, lookup_insert, List.lookup_append, lookup_cons, ih hfirst]
      by_cases h : name = member.1
      · have hnew : name ∉ members.map (·.1) := fun hm => hdisjoint hm (by simp [h])
        rw [if_pos h, if_pos h, lookup_eq_none_iff.2 hnew, Option.none_or]
      · rw [if_neg h, if_neg h, List.lookup_nil, Option.or_none]

theorem ofList_of_sorted {members : Members} (h : members.Sorted) : ofList members = members :=
  (sorted_ofList members).ext h (lookup_ofList h.nodup)

end Members

/-! ## Objects -/

theorem object_of_sorted {members : Members} (h : members.Sorted) : object members = .obj members :=
  congrArg Json.obj (Members.ofList_of_sorted h)

theorem member_object {members : List (String × Json)} (hn : (members.map (·.1)).Nodup)
    (name : String) : (object members).member name = (members.lookup name).getD .null := by
  rw [object, member, Members.lookup_ofList hn]

end BuildScheduler.Json
