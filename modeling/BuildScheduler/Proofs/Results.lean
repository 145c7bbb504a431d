import Mathlib.Data.List.Forall2

/-!
# Chains of calls that may fail

A chain succeeds if and only if each of its calls does, on what the ones before it gave; a pass over
a list fails with the error of the first item on which it does.
-/

namespace BuildScheduler

variable {α β ε : Type}

theorem bind_ok_iff {x : Except ε α} {f : α → Except ε β} {value : β} :
    x >>= f = .ok value ↔ ∃ found, x = .ok found ∧ f found = .ok value := by
  cases x with
  | error error => simp [bind, Except.bind]
  | ok found => simp [bind, Except.bind]

theorem bind_error_iff {x : Except ε α} {f : α → Except ε β} {error : ε} :
    x >>= f = .error error ↔
      x = .error error ∨ ∃ found, x = .ok found ∧ f found = .error error := by
  cases x with
  | error other => simp [bind, Except.bind]
  | ok found => simp [bind, Except.bind]

theorem map_ok_iff {x : Except ε α} {f : α → β} {value : β} :
    x.map f = .ok value ↔ ∃ found, x = .ok found ∧ f found = value := by
  cases x with
  | error error => simp [Except.map]
  | ok found => simp [Except.map]

theorem fmap_ok_iff {x : Except ε α} {f : α → β} {value : β} :
    f <$> x = .ok value ↔ ∃ found, x = .ok found ∧ f found = value :=
  map_ok_iff

/-- What is mapped and then passed on is passed on mapped. -/
theorem map_bind_eq {γ : Type} (x : Except ε α) (f : α → β) (g : β → Except ε γ) :
    x.map f >>= g = x >>= fun found => g (f found) := by
  cases x with
  | error error => rfl
  | ok found => rfl

theorem mapM_ok_iff {read : α → Except ε β} {items : List α} {values : List β} :
    items.mapM read = .ok values ↔
      List.Forall₂ (fun item value => read item = .ok value) items values := by
  induction items generalizing values with
  | nil => simp [pure, Except.pure, eq_comm]
  | cons item rest ih =>
      rw [List.mapM_cons, List.forall₂_cons_left_iff, bind_ok_iff]
      constructor
      · rintro ⟨value, hv, h⟩
        obtain ⟨more, hm, h⟩ := bind_ok_iff.1 h
        exact ⟨value, more, hv, ih.1 hm, (Except.ok.inj h).symm⟩
      · rintro ⟨value, more, hv, hm, rfl⟩
        exact ⟨value, hv, bind_ok_iff.2 ⟨more, ih.2 hm, rfl⟩⟩

theorem toOption_eq_some_iff {x : Except ε α} {value : α} :
    x.toOption = some value ↔ x = .ok value := by
  cases x <;> simp [Except.toOption]

theorem toOption_bind (x : Except ε α) (f : α → Except ε β) :
    (x >>= f).toOption = x.toOption >>= fun found => (f found).toOption := by
  cases x with
  | error error => rfl
  | ok found => rfl

/-- A pass over a list gives what the pass without errors gives. -/
theorem toOption_foldlM (step : β → α → Except ε β) (items : List α) (start : β) :
    (items.foldlM step start).toOption =
      items.foldlM (fun state item => (step state item).toOption) start := by
  induction items generalizing start with
  | nil => rfl
  | cons item rest ih =>
      rw [List.foldlM_cons, List.foldlM_cons]
      cases step start item with
      | error error => rfl
      | ok next => exact ih next

/-- A call whose result passes a check succeeds. -/
theorem exists_ok_of_any (x : Except ε α) (check : α → Bool) (h : x.toOption.any check = true) :
    ∃ value, x = .ok value ∧ check value = true := by
  cases x with
  | error error => cases h
  | ok value => exact ⟨value, rfl, h⟩

/-- What a pass gives has what each of its results has. -/
theorem forall_mem_of_forall₂ {related : α → β → Prop} {p : β → Prop} {items : List α}
    {values : List β} (h : List.Forall₂ related items values)
    (hp : ∀ item value, related item value → p value) : ∀ value ∈ values, p value := by
  induction h with
  | nil => exact List.forall_mem_nil _
  | cons hfirst _ ih => exact List.forall_mem_cons.2 ⟨hp _ _ hfirst, ih⟩

/-- A pass succeeds if it does on each item. -/
theorem exists_mapM_ok_iff {read : α → Except ε β} {items : List α} :
    (∃ values, items.mapM read = .ok values) ↔ ∀ item ∈ items, ∃ value, read item = .ok value := by
  simp only [mapM_ok_iff]
  induction items with
  | nil => simp
  | cons item rest ih =>
      rw [List.forall_mem_cons, ← ih]
      constructor
      · rintro ⟨values, h⟩
        obtain ⟨value, more, hv, hm, -⟩ := List.forall₂_cons_left_iff.1 h
        exact ⟨⟨value, hv⟩, more, hm⟩
      · rintro ⟨⟨value, hv⟩, more, hm⟩
        exact ⟨value :: more, .cons hv hm⟩

theorem mapM_error_iff {read : α → Except ε β} {items : List α} {error : ε} :
    items.mapM read = .error error ↔ ∃ before item after, items = before ++ item :: after ∧
      (∀ other ∈ before, ∃ value, read other = .ok value) ∧ read item = .error error := by
  induction items with
  | nil => simp [pure, Except.pure]
  | cons first rest ih =>
      rw [List.mapM_cons, bind_error_iff]
      constructor
      · rintro (hf | ⟨value, hv, h⟩)
        · exact ⟨[], first, rest, rfl, List.forall_mem_nil _, hf⟩
        · obtain hr | ⟨values, -, h⟩ := bind_error_iff.1 h
          · obtain ⟨before, item, after, rfl, hb, hi⟩ := ih.1 hr
            exact ⟨first :: before, item, after, rfl, List.forall_mem_cons.2 ⟨⟨value, hv⟩, hb⟩, hi⟩
          · cases h
      · rintro ⟨before, item, after, h, hb, hi⟩
        cases before with
        | nil =>
            cases h
            exact .inl hi
        | cons other before =>
            cases h
            obtain ⟨⟨value, hv⟩, hb⟩ := List.forall_mem_cons.1 hb
            have hr := ih.2 ⟨before, item, after, rfl, hb, hi⟩
            exact .inr ⟨value, hv, bind_error_iff.2 (.inl hr)⟩

end BuildScheduler
