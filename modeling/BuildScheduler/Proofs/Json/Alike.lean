import BuildScheduler.Proofs.Json.Records

/-!
# Documents that are read alike

Two objects, or two arrays, that are the same but for values that their fields read alike are
decoded alike.
-/

namespace BuildScheduler.Json.Record

variable {α : Type} {record : Record α} {same : String → Node → Node → Prop}

/-- Items of the array form that are the same but for the fields at some places. -/
inductive AlikeItems (same : String → Node → Node → Prop) :
    List (Field α) → List Node → List Node → Prop where
  | done {fields : List (Field α)} : AlikeItems same fields [] []
  | item {field : Field α} {fields : List (Field α)} {a b : Node} {items others : List Node}
      (h : a = b ∨ same field.name a b) (rest : AlikeItems same fields items others) :
      AlikeItems same (field :: fields) (a :: items) (b :: others)

/-- Two objects or two arrays that are the same but for the values of some fields. -/
inductive Alike (record : Record α) (same : String → Node → Node → Prop) : Node → Node → Prop where
  | object {members others : List Node.Member} (tail : Option Fault)
      (h : List.Forall₂ (fun a b => a = b ∨
        ∃ name, a.1 = some name ∧ b.1 = some name ∧ same name a.2 b.2) members others) :
      Alike record same (.obj members tail) (.obj others tail)
  | array {items others : List Node} (tail : Option Fault)
      (h : AlikeItems same record.fields items others) :
      Alike record same (.arr items tail) (.arr others tail)

/-- The field of a name, if names are distinct. -/
theorem find?_of_mem (hn : (record.fields.map (·.name)).Nodup) {field : Field α}
    (hm : field ∈ record.fields) : record.fields.find? (·.name == field.name) = some field := by
  generalize record.fields = fields at hn hm
  induction fields with
  | nil => cases hm
  | cons first rest ih =>
      obtain ⟨hnew, hrest⟩ := List.nodup_cons.1 hn
      rcases List.mem_cons.1 hm with rfl | hr
      · exact List.find?_cons_of_pos (beq_self_eq_true field.name)
      · have hne : first.name ≠ field.name := fun he => hnew (List.mem_map.2 ⟨field, hr, he.symm⟩)
        rw [List.find?_cons_of_neg (by simpa using hne)]
        exact ih hrest hr

/-- The fields that these values are for read them alike. -/
def ReadsAlike (record : Record α) (same : String → Node → Node → Prop) : Prop :=
  ∀ name a b, same name a b → ∃ field, record.fields.find? (·.name == name) = some field ∧
    ∀ before, field.read a before = field.read b before

section Alike

variable (hs : record.ReadsAlike same)
include hs

theorem readMembers_alike {members others : List Node.Member}
    (h : List.Forall₂ (fun a b => a = b ∨
      ∃ name, a.1 = some name ∧ b.1 = some name ∧ same name a.2 b.2) members others)
    (before : α) (seen : List String) :
    record.readMembers members before seen = record.readMembers others before seen := by
  induction h generalizing before seen with
  | nil => rfl
  | @cons a b members others hab _ ih =>
      obtain ⟨first, one⟩ := a
      obtain ⟨second, other⟩ := b
      rcases hab with he | ⟨name, ha, hb, hsame⟩
      · cases he
        cases first with
        | none => rfl
        | some name => simp only [readMembers, ih]
      · cases ha
        cases hb
        obtain ⟨field, hf, hread⟩ := hs name one other hsame
        simp only [readMembers, hf, hread before, ih]

theorem readItems_alike (hn : (record.fields.map (·.name)).Nodup) {title : String} {total : Nat}
    {fields : List (Field α)} (hm : ∀ field ∈ fields, field ∈ record.fields)
    {items others : List Node} (h : AlikeItems same fields items others) (tail : Option Fault)
    (before : α) :
    readItems title total fields items tail before =
      readItems title total fields others tail before := by
  induction h generalizing before with
  | done => rfl
  | @item field fields a b items others hab _ ih =>
      obtain ⟨hfirst, hrest⟩ := List.forall_mem_cons.1 hm
      have hread : field.read a before = field.read b before := by
        rcases hab with rfl | hsame
        · rfl
        · obtain ⟨found, hf, hread⟩ := hs field.name a b hsame
          rw [find?_of_mem hn hfirst] at hf
          cases hf
          exact hread before
      simp only [readItems, hread, ih hrest]

/-- Documents that differ only in fields that are read alike are decoded alike. -/
theorem decode_alike (hn : (record.fields.map (·.name)).Nodup) {a b : Node}
    (h : record.Alike same a b) : record.decode a = record.decode b := by
  cases h with
  | object tail h => simp only [decode, readObject, readMembers_alike hs h]
  | array tail h => simp only [decode, readItems_alike hs hn (fun _ hm => hm) h]

end Alike

end BuildScheduler.Json.Record
