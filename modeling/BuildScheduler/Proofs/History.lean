/-!
# What stands at the end of a history

An entry of a history sets a value, clears it, or leaves it as it was. What stands at the end is
the value that was set last, unless it was cleared since. The lemmas say so by a place in the
history.
-/

namespace BuildScheduler

inductive Mark (α : Type) where
  | left
  | cleared
  | set (value : α)

namespace Mark

/-- What stands after a mark, by what stood before it. -/
def upon : Mark α → Option α → Option α
  | left, held => held
  | cleared, _ => none
  | set value, _ => some value

/-- What stands after a history that began with `held`. -/
def standing (mark : ε → Mark α) (held : Option α) (history : List ε) : Option α :=
  history.foldl (fun held entry => (mark entry).upon held) held

section Standing

variable {mark : ε → Mark α} {held : Option α} {history : List ε} {value : α}

@[simp] theorem standing_nil : standing mark held [] = held := rfl

@[simp] theorem standing_cons (entry : ε) (rest : List ε) :
    standing mark held (entry :: rest) = standing mark ((mark entry).upon held) rest := rfl

theorem standing_append (before after : List ε) :
    standing mark held (before ++ after) = standing mark (standing mark held before) after :=
  List.foldl_append

theorem standing_of_left (h : ∀ entry ∈ history, mark entry = left) :
    standing mark held history = held := by
  induction history with
  | nil => rfl
  | cons entry rest ih =>
      rw [standing_cons, h entry List.mem_cons_self]
      exact ih fun later hl => h later (List.mem_cons_of_mem _ hl)

theorem standing_isSome_of_not_cleared (h : ∀ entry ∈ history, mark entry ≠ cleared) :
    (standing mark (some value) history).isSome = true := by
  induction history generalizing value with
  | nil => rfl
  | cons entry rest ih =>
      have hr : ∀ later ∈ rest, mark later ≠ cleared :=
        fun later hl => h later (List.mem_cons_of_mem _ hl)
      rw [standing_cons]
      cases hm : mark entry with
      | left => exact ih hr
      | cleared => exact absurd hm (h entry List.mem_cons_self)
      | set other => exact ih hr

/-- What stands was there from the beginning, or was set at some place and left since. -/
theorem standing_cases (h : standing mark held history = some value) :
    (held = some value ∧ ∀ entry ∈ history, mark entry = left) ∨
    ∃ before entry after, history = before ++ entry :: after ∧ mark entry = set value ∧
      ∀ later ∈ after, mark later = left := by
  induction history generalizing held with
  | nil => exact .inl ⟨h, fun entry he => by cases he⟩
  | cons entry rest ih =>
      rw [standing_cons] at h
      obtain ⟨hh, hl⟩ | ⟨before, place, after, rfl, hs, hl⟩ := ih h
      · cases hm : mark entry with
        | left =>
            rw [hm] at hh
            exact .inl ⟨hh, List.forall_mem_cons.2 ⟨hm, hl⟩⟩
        | cleared =>
            rw [hm] at hh
            cases hh
        | set other =>
            rw [hm] at hh
            cases hh
            exact .inr ⟨[], entry, rest, rfl, hm, hl⟩
      · exact .inr ⟨entry :: before, place, after, rfl, hs, hl⟩

theorem standing_eq_some_iff :
    standing mark none history = some value ↔
      ∃ before entry after, history = before ++ entry :: after ∧ mark entry = set value ∧
        ∀ later ∈ after, mark later = left := by
  constructor
  · intro h
    obtain ⟨hn, _⟩ | hs := standing_cases h
    · cases hn
    · exact hs
  · rintro ⟨before, entry, after, rfl, hs, hl⟩
    rw [standing_append, standing_cons, hs, standing_of_left hl]
    rfl

theorem standing_isSome_iff :
    (standing mark none history).isSome = true ↔
      ∃ before entry after value, history = before ++ entry :: after ∧ mark entry = set value ∧
        ∀ later ∈ after, mark later ≠ cleared := by
  constructor
  · intro h
    obtain ⟨value, hv⟩ := Option.isSome_iff_exists.1 h
    obtain ⟨before, entry, after, he, hs, hl⟩ := standing_eq_some_iff.1 hv
    refine ⟨before, entry, after, value, he, hs, ?_⟩
    intro later hm hc
    rw [hl later hm] at hc
    cases hc
  · rintro ⟨before, entry, after, value, rfl, hs, hc⟩
    rw [standing_append, standing_cons, hs]
    exact standing_isSome_of_not_cleared hc

end Standing

end Mark

end BuildScheduler
