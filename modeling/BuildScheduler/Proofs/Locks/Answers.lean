import BuildScheduler.Lock
import BuildScheduler.Proofs.History

/-!
# The answers of a lock store

What a store answers to a call on a name follows from the calls on that name before it, whatever
clock readings these had: the record that was put last, unless it was deleted since, decides.
`answers_by_latest` states this for every call of every run that begins with an empty store.
-/

namespace BuildScheduler

inductive LockCall where
  | put (record : LockRecord) (now : Instant)
  | delete (name : String)
  | get (name : String)
deriving DecidableEq

def LockCall.name : LockCall → String
  | .put record _ => record.name
  | .delete name => name
  | .get name => name

inductive LockAnswer where
  | written (done : Bool)
  | deleted
  | found (record : Option LockRecord)
deriving DecidableEq

structure LockEntry where
  call : LockCall
  answer : LockAnswer
deriving DecidableEq

namespace LockEntry

def Wrote (name : String) (record : LockRecord) (entry : LockEntry) : Prop :=
  record.name = name ∧ ∃ now, entry = ⟨.put record now, .written true⟩

def Deletes (name : String) (entry : LockEntry) : Prop := entry.call = .delete name

/-- What an entry does to the record of a name. -/
def mark (name : String) : LockEntry → Mark LockRecord
  | ⟨.put record _, .written true⟩ => if record.name = name then .set record else .left
  | ⟨.delete other, _⟩ => if other = name then .cleared else .left
  | _ => .left

theorem mark_eq_set {name : String} {record : LockRecord} {entry : LockEntry} :
    entry.mark name = .set record ↔ entry.Wrote name record := by
  constructor
  · intro h
    unfold mark at h
    split at h
    · rename_i written now
      split at h
      · rename_i hn
        cases h
        exact ⟨hn, now, rfl⟩
      · cases h
    · split at h <;> cases h
    · cases h
  · rintro ⟨hn, now, rfl⟩
    simp [mark, hn]

theorem mark_eq_cleared {name : String} {entry : LockEntry} :
    entry.mark name = .cleared ↔ entry.Deletes name := by
  constructor
  · intro h
    unfold mark at h
    split at h
    · split at h <;> cases h
    · split at h
      · rename_i hn
        exact congrArg LockCall.delete hn
      · cases h
    · cases h
  · intro h
    obtain ⟨call, answer⟩ := entry
    cases h
    simp [mark]

theorem mark_eq_left {name : String} {entry : LockEntry} :
    entry.mark name = .left ↔ (∀ record, ¬ entry.Wrote name record) ∧ ¬ entry.Deletes name := by
  simp only [← mark_eq_set, ← mark_eq_cleared]
  cases entry.mark name with
  | left => simp
  | cleared => simp
  | set record => simp

end LockEntry

namespace LockStore

/-! ## Runs -/

def answer (store : LockStore) : LockCall → LockAnswer × LockStore
  | .put record now =>
      let (done, store) := store.put record now
      (.written done, store)
  | .delete name => (.deleted, store.delete name)
  | .get name => (.found (store.get? name), store)

def run (store : LockStore) (calls : List LockCall) : LockStore :=
  calls.foldl (fun store call => (store.answer call).2) store

def history : LockStore → List LockCall → List LockEntry
  | _, [] => []
  | store, call :: rest => ⟨call, (store.answer call).1⟩ :: history (store.answer call).2 rest

/-- The record that the last put of a name wrote, if the name was not deleted since. -/
def Latest (name : String) (record : LockRecord) (past : List LockEntry) : Prop :=
  ∃ before entry after, past = before ++ entry :: after ∧ entry.Wrote name record ∧
    ∀ later ∈ after, (∀ other, ¬ later.Wrote name other) ∧ ¬ later.Deletes name

/-- A put of a name has succeeded since the last delete of it. -/
def WrittenSince (name : String) (past : List LockEntry) : Prop :=
  ∃ before entry after record, past = before ++ entry :: after ∧ entry.Wrote name record ∧
    ∀ later ∈ after, ¬ later.Deletes name

section Answers

variable {store : LockStore} {name : String} {record : LockRecord} {now : Instant}

theorem put_of_held (h : store.isHeld record.name now = true) :
    store.put record now = (false, store) := by
  rw [put, if_pos h]

theorem put_of_not_held (h : store.isHeld record.name now = false) :
    store.put record now = (true, store.write record) := by
  rw [put, if_neg (by simp [h])]

/-- A name is not held if its record, where it has one, has expired. -/
theorem isHeld_eq_false_iff :
    store.isHeld name now = false ↔
      ∀ held, store.get? name = some held → held.expiresAt < now := by
  unfold isHeld
  cases store.get? name with
  | none => simp
  | some held => simp [LockRecord.isExpired]

theorem answer_put_eq_written_iff :
    (store.answer (.put record now)).1 = .written true ↔
      store.isHeld record.name now = false := by
  cases h : store.isHeld record.name now with
  | true => simp [answer, put_of_held h]
  | false => simp [answer, put_of_not_held h]

/-- A call does to the record of a name what the mark of its entry says. -/
theorem get?_answer (store : LockStore) (call : LockCall) (name : String) :
    (store.answer call).2.get? name =
      ((LockEntry.mk call (store.answer call).1).mark name).upon (store.get? name) := by
  cases call with
  | put record now =>
      cases h : store.isHeld record.name now with
      | true => simp [answer, put_of_held h, LockEntry.mark, Mark.upon]
      | false =>
          simp only [answer, put_of_not_held h, LockEntry.mark, get?_write]
          by_cases hn : record.name = name
          · rw [if_pos hn, if_pos hn.symm]
            rfl
          · rw [if_neg hn, if_neg (Ne.symm hn)]
            rfl
  | delete other =>
      simp only [answer, LockEntry.mark, get?_delete]
      by_cases hn : other = name
      · rw [if_pos hn, if_pos hn.symm]
        rfl
      · rw [if_neg hn, if_neg (Ne.symm hn)]
        rfl
  | get other => rfl

theorem get?_answer_of_ne {call : LockCall} (h : call.name ≠ name) :
    (store.answer call).2.get? name = store.get? name := by
  have hl : (LockEntry.mk call (store.answer call).1).mark name = .left := by
    refine LockEntry.mark_eq_left.2 ⟨?_, ?_⟩
    · rintro record ⟨hn, now, he⟩
      rw [LockEntry.mk.injEq] at he
      rw [he.1] at h
      exact h hn
    · intro hd
      cases hd
      exact h rfl
  rw [get?_answer, hl]
  rfl

/-- Only the record of its own name decides the answer to a call. -/
theorem answer_congr {other : LockStore} {call : LockCall}
    (h : store.get? call.name = other.get? call.name) :
    (store.answer call).1 = (other.answer call).1 := by
  cases call with
  | put record now =>
      have hh : store.isHeld record.name now = other.isHeld record.name now := by
        unfold isHeld
        rw [LockCall.name] at h
        rw [h]
      cases hs : store.isHeld record.name now with
      | true => simp [answer, put_of_held hs, put_of_held (hh.symm.trans hs)]
      | false => simp [answer, put_of_not_held hs, put_of_not_held (hh.symm.trans hs)]
  | delete name => rfl
  | get name => exact congrArg LockAnswer.found h

end Answers

/-! ## The record that stands -/

theorem standing_history (store : LockStore) (calls : List LockCall) (name : String) :
    Mark.standing (LockEntry.mark name) (store.get? name) (store.history calls) =
      (store.run calls).get? name := by
  induction calls generalizing store with
  | nil => rfl
  | cons call rest ih => rw [history, Mark.standing_cons, ← get?_answer, ih]; rfl

theorem latest_iff {calls : List LockCall} {name : String} {record : LockRecord} :
    Latest name record (empty.history calls) ↔ (empty.run calls).get? name = some record := by
  rw [← standing_history, get?_empty, Mark.standing_eq_some_iff]
  simp only [LockEntry.mark_eq_set, LockEntry.mark_eq_left, Latest]

theorem writtenSince_iff {calls : List LockCall} {name : String} :
    WrittenSince name (empty.history calls) ↔
      ((empty.run calls).get? name).isSome = true := by
  rw [← standing_history, get?_empty, Mark.standing_isSome_iff]
  simp only [LockEntry.mark_eq_set, ne_eq, LockEntry.mark_eq_cleared, WrittenSince]

/-- The entries of one name are those of a run that made no other calls. -/
theorem history_filter (name : String) (calls : List LockCall) (store other : LockStore)
    (h : store.get? name = other.get? name) :
    (store.history calls).filter (·.call.name == name) =
      other.history (calls.filter (·.name == name)) := by
  induction calls generalizing store other with
  | nil => rfl
  | cons call rest ih =>
      by_cases hn : call.name = name
      · subst hn
        have ha := answer_congr h
        have hg : (store.answer call).2.get? call.name = (other.answer call).2.get? call.name := by
          rw [get?_answer, get?_answer, ha, h]
        rw [history, List.filter_cons_of_pos (by simp), List.filter_cons_of_pos (by simp),
          history, ih _ _ hg, ha]
      · have hs : (store.answer call).2.get? name = other.get? name := by
          rw [get?_answer_of_ne hn, h]
        rw [history, List.filter_cons_of_neg (by simpa using hn),
          List.filter_cons_of_neg (by simpa using hn), ih _ _ hs]

/-- A place in a history is a place in its calls. -/
theorem history_eq_append {calls : List LockCall} {store : LockStore}
    {before after : List LockEntry} {entry : LockEntry}
    (h : store.history calls = before ++ entry :: after) :
    ∃ past, store.history past = before ∧
      ((store.run past).answer entry.call).1 = entry.answer := by
  induction calls generalizing store before with
  | nil => cases before <;> cases h
  | cons call rest ih =>
      cases before with
      | nil =>
          cases h
          exact ⟨[], rfl, rfl⟩
      | cons first before =>
          rw [history, List.cons_append, List.cons.injEq] at h
          obtain ⟨past, hp, ha⟩ := ih h.2
          refine ⟨call :: past, ?_, ha⟩
          rw [history, hp, h.1]

/-- A written put supersedes a record that has ended: the one that was put before, or one that
was put in between. -/
theorem superseded_after_end {calls : List LockCall} {before between after : List LockEntry}
    {first : LockEntry} {earlier later : LockRecord} {now : Instant}
    (h : empty.history calls =
      before ++ first :: between ++ ⟨.put later now, .written true⟩ :: after)
    (hf : first.Wrote later.name earlier)
    (hd : ∀ entry ∈ between, ¬ entry.Deletes later.name) :
    ∃ held : LockRecord, held.expiresAt < now ∧
      (held = earlier ∨ ∃ entry ∈ between, entry.Wrote later.name held) := by
  obtain ⟨past, hp, ha⟩ := history_eq_append h
  have hfree := isHeld_eq_false_iff.1 (answer_put_eq_written_iff.1 ha)
  -- what stands at the second put is what the first one wrote, or what came over it since
  have hs := standing_history empty past later.name
  rw [hp, Mark.standing_append, Mark.standing_cons, LockEntry.mark_eq_set.2 hf] at hs
  have hc : ∀ entry ∈ between, entry.mark later.name ≠ .cleared :=
    fun entry he hm => hd entry he (LockEntry.mark_eq_cleared.1 hm)
  obtain ⟨held, hh⟩ := Option.isSome_iff_exists.1 (Mark.standing_isSome_of_not_cleared hc)
  refine ⟨held, hfree held (hs.symm.trans hh), ?_⟩
  obtain ⟨he, _⟩ | ⟨front, entry, rest, rfl, hw, _⟩ := Mark.standing_cases hh
  · exact .inl (Option.some.inj he).symm
  · exact .inr ⟨entry, by simp, LockEntry.mark_eq_set.1 hw⟩

/-- After any calls a put is written if and only if no put of its name has succeeded since the
last delete of it, or the record put last ends strictly before the clock reading; a get finds the
record put last. A put that is not written and a get leave the store as it was, and calls on other
names do not change an answer. A second written put comes strictly after the end of the first, or
after the end of one in between that ends before the first does. -/
theorem answers_by_latest (past : List LockCall) :
    let store := empty.run past
    let history := empty.history past
    (∀ record now,
      ((store.answer (.put record now)).1 = .written true ↔
        ¬ WrittenSince record.name history ∨
          ∃ held, Latest record.name held history ∧ held.expiresAt < now) ∧
      ((store.answer (.put record now)).1 ≠ .written true →
        store.answer (.put record now) = (.written false, store))) ∧
    (∀ name, ∃ found, store.answer (.get name) = (.found found, store) ∧
      ∀ record, found = some record ↔ Latest name record history) ∧
    (∀ name, history.filter (·.call.name == name) =
      empty.history (past.filter (·.name == name))) ∧
    ∀ before first between after earlier later now,
      history = before ++ first :: between ++ ⟨.put later now, .written true⟩ :: after →
      first.Wrote later.name earlier → (∀ entry ∈ between, ¬ entry.Deletes later.name) →
      earlier.expiresAt < now ∨
        ∃ entry ∈ between, ∃ record, entry.Wrote later.name record ∧
          record.expiresAt < earlier.expiresAt := by
  intro store history
  refine ⟨?_, ?_, ?_, ?_⟩
  · intro record now
    refine ⟨?_, ?_⟩
    · rw [answer_put_eq_written_iff, isHeld_eq_false_iff, writtenSince_iff]
      simp only [history, latest_iff]
      cases store.get? record.name with
      | none => simp
      | some held => simp
    · intro h
      rw [Ne, answer_put_eq_written_iff, Bool.not_eq_false] at h
      simp only [answer, put_of_held h]
  · intro name
    exact ⟨store.get? name, rfl, fun record => latest_iff.symm⟩
  · intro name
    exact history_filter name past empty empty rfl
  · intro before first between after earlier later now h hf hd
    obtain ⟨held, hlate, rfl | ⟨entry, he, hw⟩⟩ := superseded_after_end h hf hd
    · exact .inl hlate
    · by_cases hends : held.expiresAt < earlier.expiresAt
      · exact .inr ⟨entry, he, held, hw, hends⟩
      · exact .inl (Int.lt_of_le_of_lt (Instant.not_lt.1 hends) hlate)

/-- A second put need not come after the end of the first one: the put in between wrote a record
that ended before the first does, and a reading before that end supersedes it. -/
theorem put_before_earlier_end :
    ¬ ∀ (past : List LockCall) (before between after : List LockEntry) (first : LockEntry)
        (earlier later : LockRecord) (now : Instant),
      empty.history past = before ++ first :: between ++ ⟨.put later now, .written true⟩ :: after →
      first.Wrote later.name earlier → (∀ entry ∈ between, ¬ entry.Deletes later.name) →
      earlier.expiresAt < now := by
  intro h
  let ending (second : Nat) : LockRecord := ⟨"acme/widgets/main", ⟨second, 0, by decide⟩⟩
  let reading (second : Nat) : Instant := ⟨second, 0, by decide⟩
  have hlate := h [.put (ending 10) (reading 0), .put (ending 5) (reading 11),
      .put (ending 20) (reading 6)] []
    [⟨.put (ending 5) (reading 11), .written true⟩] []
    ⟨.put (ending 10) (reading 0), .written true⟩ (ending 10) (ending 20) (reading 6)
    (by decide) ⟨rfl, _, rfl⟩ (by simp [LockEntry.Deletes])
  exact absurd hlate (by decide)

end LockStore

end BuildScheduler
