import BuildScheduler.Json.Decode
import BuildScheduler.Proofs.Json.Members
import BuildScheduler.Proofs.Results

/-!
# Values as nodes

A value taken as a node has no faults, and reading it gives the value back. What the decoders of
the simple types make of it follows from the kind of value it is.
-/

namespace BuildScheduler.Json

theorem canonicalItems_iff {items : List Json} :
    CanonicalItems items ↔ ∀ item ∈ items, item.Canonical := by
  induction items with
  | nil => simp [CanonicalItems]
  | cons item rest ih => simp [CanonicalItems, ih]

theorem canonicalMembers_iff {members : Members} :
    CanonicalMembers members ↔ ∀ member ∈ members, member.2.Canonical := by
  induction members with
  | nil => simp [CanonicalMembers]
  | cons member rest ih => simp [CanonicalMembers, ih]

theorem canonical_arr {items : List Json} :
    (Json.arr items).Canonical ↔ ∀ item ∈ items, item.Canonical := by
  rw [Canonical, canonicalItems_iff]

theorem canonical_obj {members : Members} :
    (Json.obj members).Canonical ↔ members.Sorted ∧ ∀ member ∈ members, member.2.Canonical := by
  rw [Canonical, canonicalMembers_iff]
  rfl

mutual

/-- Reading a value gives it back: its members are in their order already. -/
theorem toJson_toNode : ∀ {value : Json}, value.Canonical → value.toNode.toJson = .ok value
  | .null, _ | .bool _, _ | .int _, _ | .double _, _ | .str _, _ => by simp [toNode, Node.toJson]
  | .arr items, h => by
      have hitems := itemsToJson_itemNodes (by simpa only [Canonical] using h)
      simp only [toNode, Node.toJson, hitems]
      rfl
  | .obj members, h => by
      obtain ⟨hs, hm⟩ : Members.Sorted members ∧ CanonicalMembers members := by
        simpa only [Canonical, Members.Sorted] using h
      simp only [toNode, Node.toJson, membersToJson_memberNodes hm]
      exact congrArg (fun sorted => Except.ok (Json.obj sorted)) (Members.ofList_of_sorted hs)

theorem itemsToJson_itemNodes : ∀ {items : List Json}, CanonicalItems items →
    Node.itemsToJson (itemNodes items) = .ok items
  | [], _ => by simp [itemNodes, Node.itemsToJson]
  | item :: rest, h => by
      obtain ⟨hi, hr⟩ : item.Canonical ∧ CanonicalItems rest := by
        simpa only [CanonicalItems] using h
      simp only [itemNodes, Node.itemsToJson, toJson_toNode hi, itemsToJson_itemNodes hr]
      rfl

theorem membersToJson_memberNodes : ∀ {members : Members}, CanonicalMembers members →
    Node.membersToJson (memberNodes members) = .ok members
  | [], _ => by simp [memberNodes, Node.membersToJson]
  | (name, value) :: rest, h => by
      obtain ⟨hv, hr⟩ : value.Canonical ∧ CanonicalMembers rest := by
        simpa only [CanonicalMembers] using h
      simp only [memberNodes, Node.membersToJson, toJson_toNode hv, membersToJson_memberNodes hr]
      rfl

end

mutual

theorem firstFault_toNode : ∀ value : Json, value.toNode.firstFault = none
  | .null | .bool _ | .int _ | .double _ | .str _ => by simp [toNode, Node.firstFault]
  | .arr items => by simp [toNode, Node.firstFault, firstFaultItems_itemNodes items]
  | .obj members => by simp [toNode, Node.firstFault, firstFaultMembers_memberNodes members]

theorem firstFaultItems_itemNodes : ∀ items : List Json,
    Node.firstFaultItems (itemNodes items) = none
  | [] => by simp [itemNodes, Node.firstFaultItems]
  | item :: rest => by
      simp [itemNodes, Node.firstFaultItems, firstFault_toNode item, firstFaultItems_itemNodes rest]

theorem firstFaultMembers_memberNodes : ∀ members : Members,
    Node.firstFaultMembers (memberNodes members) = none
  | [] => by simp [memberNodes, Node.firstFaultMembers]
  | (name, value) :: rest => by
      simp [memberNodes, Node.firstFaultMembers, firstFault_toNode value,
        firstFaultMembers_memberNodes rest]

end

theorem skip_toNode (value : Json) : value.toNode.skip = .ok () := by
  rw [Node.skip, firstFault_toNode]

theorem itemNodes_eq_map (items : List Json) : itemNodes items = items.map toNode := by
  induction items with
  | nil => rfl
  | cons item rest ih => rw [itemNodes, ih, List.map_cons]

/-! ## Simple decoders -/

namespace Decode

theorem string_ok_iff {value : Json} {text : String} :
    string value.toNode = .ok text ↔ value = .str text := by
  cases value with
  | str other => simp [toNode, string]
  | _ => simp [toNode, string]

theorem bool_ok_iff {value : Json} {flag : Bool} :
    bool value.toNode = .ok flag ↔ value = .bool flag := by
  cases value with
  | bool other => simp [toNode, bool]
  | _ => simp [toNode, bool]

theorem option_ok_iff {decode : Decoder α} {value : Json} {found : Option α} :
    option decode value.toNode = .ok found ↔
      (value = .null ∧ found = none) ∨
        (value ≠ .null ∧ ∃ content, decode value.toNode = .ok content ∧ some content = found) := by
  cases value with
  | null => simp [toNode, option, eq_comm]
  | _ => simp [toNode, option, map_ok_iff]

theorem list_ok_iff {decode : Decoder α} {value : Json} {found : List α} :
    list decode value.toNode = .ok found ↔ ∃ items, value = .arr items ∧
      List.Forall₂ (fun item content => decode item.toNode = .ok content) items found := by
  cases value with
  | arr items =>
      have hlist : list decode (Json.arr items).toNode = (itemNodes items).mapM decode := by
        simp only [toNode, list]
        cases (itemNodes items).mapM decode <;> rfl
      rw [hlist, itemNodes_eq_map, mapM_ok_iff, List.forall₂_map_left_iff]
      simp
  | _ => simp [toNode, list]

end Decode

end BuildScheduler.Json
