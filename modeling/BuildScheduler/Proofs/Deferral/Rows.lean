import BuildScheduler.Proofs.Deferral.Insertions
import Mathlib.Data.List.Nodup

/-!
# Rows of a table of deferred builds

A table has at most one row a lock name, numbers the rows that go in, and gives them back in any
order. Sorted by their stamps and then by their numbers they are in the order of their deferrals, so
a table shows what a queue in memory does: `events_as_queued`.
-/

namespace BuildScheduler

theorem Instant.eq_of_key {a b : Instant} (h : a.key = b.key) : a = b := by
  obtain ⟨second, nano, ha⟩ := a
  obtain ⟨second', nano', hb⟩ := b
  simp only [key, mk.injEq] at h ⊢
  omega

namespace DeferredRow

/-! ## The order of rows -/

/-- A row was deferred before another, or at the same time and put in no later. -/
def NoLater (first second : DeferredRow) : Prop :=
  first.deferredAt < second.deferredAt ∨
    first.deferredAt = second.deferredAt ∧ first.seq ≤ second.seq

theorem notAfter_iff {first second : DeferredRow} :
    notAfter first second = true ↔ first.NoLater second := by
  simp only [notAfter, NoLater, Bool.or_eq_true, Bool.and_eq_true, decide_eq_true_eq, beq_iff_eq]
  exact or_congr_right (and_congr_left fun _ => ⟨Instant.eq_of_key, congrArg Instant.key⟩)

theorem NoLater.trans {first second third : DeferredRow} (h : first.NoLater second)
    (k : second.NoLater third) : first.NoLater third := by
  simp only [NoLater, Instant.lt_iff] at *
  grind

theorem noLater_total (first second : DeferredRow) :
    first.NoLater second ∨ second.NoLater first := by
  by_cases h : first.deferredAt = second.deferredAt
  · simp only [NoLater, h, true_and]
    omega
  · have hk : first.deferredAt.key ≠ second.deferredAt.key := mt Instant.eq_of_key h
    simp only [NoLater, Instant.lt_iff]
    omega

theorem NoLater.rank_eq {first second : DeferredRow} (h : first.NoLater second)
    (k : second.NoLater first) :
    (first.deferredAt, first.seq) = (second.deferredAt, second.seq) := by
  simp only [NoLater, Instant.lt_iff, Prod.mk.injEq] at *
  grind

theorem sorted_mergeSort (rows : List DeferredRow) :
    (rows.mergeSort notAfter).Pairwise NoLater := by
  refine (List.pairwise_mergeSort ?_ ?_ rows).imp notAfter_iff.1
  · simp only [notAfter_iff]
    exact fun _ _ _ => NoLater.trans
  · simp only [Bool.or_eq_true, notAfter_iff]
    exact noLater_total

/-- Rows of different ranks are sorted in one way. -/
theorem eq_of_sorted {rows other : List DeferredRow}
    (hn : (rows.map fun row => (row.deferredAt, row.seq)).Nodup) (hp : other.Perm rows)
    (hr : rows.Pairwise NoLater) (ho : other.Pairwise NoLater) : other = rows := by
  refine hp.eq_of_pairwise (fun first second hf hs h k => ?_) ho hr
  exact List.inj_on_of_nodup_map hn (hp.mem_iff.1 hf) hs (h.rank_eq k)

theorem events_of_perm {rows other : List DeferredRow}
    (hn : (rows.map fun row => (row.deferredAt, row.seq)).Nodup) (hp : other.Perm rows) :
    events other = events rows := by
  have hsorted := List.mergeSort_perm rows notAfter
  refine congrArg (List.map toEvent) (eq_of_sorted ?_ ?_ (sorted_mergeSort rows)
    (sorted_mergeSort other))
  · exact (hsorted.map _).nodup_iff.2 hn
  · exact (List.mergeSort_perm other notAfter).trans (hp.trans hsorted.symm)

theorem events_of_sorted {rows : List DeferredRow}
    (hn : (rows.map fun row => (row.deferredAt, row.seq)).Nodup) (hr : rows.Pairwise NoLater) :
    events rows = rows.map toEvent :=
  congrArg (List.map toEvent)
    (eq_of_sorted hn (List.mergeSort_perm rows notAfter) hr (sorted_mergeSort rows))

/-! ## Tables -/

def ofEvent (event : BuildEvent) (now : Instant) (seq : Int) : DeferredRow where
  team := event.team
  project := event.project
  ref := event.ref
  id := event.id
  deferredAt := now
  seq := seq

def lockName (row : DeferredRow) : String := row.toEvent.lockName

/-- The row that a call puts into a table, under the number that is next. A name that has a row is
left as it is. -/
def inserted? (rows : List DeferredRow) (call : QueueCall) (seq : Int) : Option DeferredRow :=
  match call with
  | .defer event now =>
      if rows.any (·.lockName == event.lockName) then none else some (ofEvent event now seq)
  | _ => none

def deletes : QueueCall → DeferredRow → Bool
  | .poll, _ => true
  | .remove name, row => row.lockName == name
  | _, _ => false

/-- The rows after a call, in the order in which they went in. -/
def afterCall (rows : List DeferredRow) (call : QueueCall) (seq : Int) : List DeferredRow :=
  rows.filter (fun row => !deletes call row) ++ (inserted? rows call seq).toList

/-- The rows after some calls, each with the number of a row that it puts in. -/
def table (rows : List DeferredRow) (calls : List (QueueCall × Int)) : List DeferredRow :=
  calls.foldl (fun rows call => afterCall rows call.1 call.2) rows

def insertions : List DeferredRow → List (QueueCall × Int) → List DeferredRow
  | _, [] => []
  | rows, call :: rest =>
      (inserted? rows call.1 call.2).toList ++ insertions (afterCall rows call.1 call.2) rest

theorem table_sublist (rows : List DeferredRow) (calls : List (QueueCall × Int)) :
    (table rows calls).Sublist (rows ++ insertions rows calls) := by
  induction calls generalizing rows with
  | nil => exact List.sublist_append_left rows []
  | cons call rest ih =>
      rw [insertions, ← List.append_assoc]
      refine (ih (afterCall rows call.1 call.2)).trans (List.Sublist.append_right ?_ _)
      exact List.Sublist.append_right List.filter_sublist _

/-- The stamps of the rows that go in are readings of the clock, in their order. -/
theorem stamps_insertions (rows : List DeferredRow) (calls : List (QueueCall × Int)) :
    ((insertions rows calls).map (·.deferredAt)).Sublist (calls.filterMap (·.1.reading?)) := by
  induction calls generalizing rows with
  | nil => exact List.Sublist.slnil
  | cons call rest ih =>
      obtain ⟨call, seq⟩ := call
      rw [insertions, List.map_append]
      cases call with
      | defer event now =>
          have hreadings : ((QueueCall.defer event now, seq) :: rest).filterMap (·.1.reading?) =
              now :: rest.filterMap (·.1.reading?) := rfl
          rw [hreadings, inserted?]
          split
          · exact (ih _).cons _
          · exact (ih _).cons_cons _
      | list => exact ih _
      | poll => exact ih _
      | remove name => exact ih _

section Histories

variable {calls : List (QueueCall × Int)}
  (hclock : (calls.filterMap (·.1.reading?)).Pairwise (· ≤ ·))
  (hseq : (insertions [] calls).Pairwise (·.seq < ·.seq))

include hclock hseq

/-- A row that went in later is no earlier and has a greater number. -/
theorem pairwise_table :
    (table [] calls).Pairwise fun first second =>
      first.deferredAt ≤ second.deferredAt ∧ first.seq < second.seq := by
  have hstamps : (insertions [] calls).Pairwise (·.deferredAt ≤ ·.deferredAt) :=
    List.pairwise_map.1 (hclock.sublist (stamps_insertions [] calls))
  exact (hstamps.and hseq).sublist (table_sublist [] calls)

theorem sorted_table : (table [] calls).Pairwise NoLater := by
  refine (pairwise_table hclock hseq).imp fun {first second} h => ?_
  have hkey : first.deferredAt < second.deferredAt ∨ first.deferredAt = second.deferredAt :=
    (Int.lt_or_eq_of_le h.1).imp_right Instant.eq_of_key
  exact hkey.imp_right fun heq => ⟨heq, Int.le_of_lt h.2⟩

theorem nodup_table : ((table [] calls).map fun row => (row.deferredAt, row.seq)).Nodup := by
  refine List.pairwise_map.2 ((pairwise_table hclock hseq).imp fun h heq => ?_)
  exact Int.ne_of_lt h.2 (congrArg Prod.snd heq)

end Histories

/-! ## Tables and queues -/

def Holds (rows : List DeferredRow) (queue : DeferralQueue) : Prop :=
  rows.map toEvent = queue.entries

theorem Holds.inserted? {rows : List DeferredRow} {queue : DeferralQueue} (h : Holds rows queue)
    (call : QueueCall) (seq : Int) :
    (inserted? rows call seq).map toEvent = queue.inserted? call := by
  cases call with
  | defer event now =>
      have hc : rows.any (·.lockName == event.lockName) = queue.contains event.lockName := by
        rw [DeferralQueue.contains, ← h, List.any_map]
        rfl
      rw [DeferredRow.inserted?, DeferralQueue.inserted?, hc]
      split <;> rfl
  | list => rfl
  | poll => rfl
  | remove name => rfl

theorem deletes_eq_takes (call : QueueCall) (row : DeferredRow) :
    deletes call row = call.takes row.toEvent.lockName := by
  cases call <;> rfl

/-- A call keeps the entries of a table those of a queue. -/
theorem Holds.afterCall {rows : List DeferredRow} {queue : DeferralQueue} (h : Holds rows queue)
    (call : QueueCall) (seq : Int) : Holds (afterCall rows call seq) (queue.answer call).2 := by
  have hkept : (rows.filter fun row => !deletes call row).map toEvent =
      queue.entries.filter fun entry => !call.takes entry.lockName := by
    rw [← show rows.map toEvent = queue.entries from h, List.filter_map]
    simp only [deletes_eq_takes, Function.comp_def]
  rw [Holds, DeferralQueue.entries_answer, ← hkept, ← h.inserted? call seq, DeferredRow.afterCall,
    List.map_append, Option.toList_map]

theorem Holds.table {rows : List DeferredRow} {queue : DeferralQueue} (h : Holds rows queue)
    (calls : List (QueueCall × Int)) :
    Holds (table rows calls) (queue.run (calls.map (·.1))) := by
  induction calls generalizing rows queue with
  | nil => exact h
  | cons call rest ih => exact ih (h.afterCall call.1 call.2)

/-- The events of any rows are those of the rows sorted by their stamps and then by their numbers,
and depend on no other order if no two rows have both in common. So after any calls, with readings
of the clock that do not decrease and numbers that increase from one insertion to the next, the rows
of a table in any order have the events that a queue lists after the same calls. -/
theorem events_as_queued :
    (∀ rows : List DeferredRow, ∃ sorted : List DeferredRow, sorted.Perm rows ∧
      (sorted.Pairwise fun first second => first.deferredAt < second.deferredAt ∨
        first.deferredAt = second.deferredAt ∧ first.seq ≤ second.seq) ∧
      events rows = sorted.map fun row =>
        { team := row.team, project := row.project, ref := row.ref, id := row.id,
          deferredAt := some row.deferredAt }) ∧
    (∀ rows other : List DeferredRow,
      (rows.map fun row => (row.deferredAt, row.seq)).Nodup → other.Perm rows →
        events other = events rows) ∧
    ∀ calls : List (QueueCall × Int), (calls.filterMap (·.1.reading?)).Pairwise (· ≤ ·) →
      (insertions [] calls).Pairwise (·.seq < ·.seq) →
      ∀ rows : List DeferredRow, rows.Perm (table [] calls) →
        ((DeferralQueue.empty.run (calls.map (·.1))).answer .list).1 = .found (events rows) := by
  refine ⟨fun rows => ?_, fun rows other => events_of_perm, ?_⟩
  · exact ⟨rows.mergeSort notAfter, List.mergeSort_perm rows notAfter, sorted_mergeSort rows, rfl⟩
  · intro calls hclock hseq rows hp
    have hn := nodup_table hclock hseq
    have hheld : Holds (table [] calls) (DeferralQueue.empty.run (calls.map (·.1))) :=
      Holds.table rfl calls
    rw [events_of_perm hn hp, events_of_sorted hn (sorted_table hclock hseq), hheld]
    rfl

/-- A second deferral of a queued name, a removal, and two deferrals at one time, with the rows the
other way around. -/
theorem events_as_queued_of_ties :
    let event (ref : String) : BuildEvent := { team := "acme", project := "widgets", ref }
    let reading (second : Nat) : Instant := ⟨second, 0, by decide⟩
    let calls : List (QueueCall × Int) := [(.defer (event "master") (reading 1), 1),
      (.defer (event "feature/a") (reading 2), 2), (.defer (event "master") (reading 2), 3),
      (.defer (event "feature/b") (reading 2), 4), (.remove "acme/widgets/master", 5),
      (.defer (event "master") (reading 2), 6)]
    let rows := (table [] calls).reverse
    (calls.filterMap (·.1.reading?)).Pairwise (· ≤ ·) ∧
    (insertions [] calls).Pairwise (·.seq < ·.seq) ∧ rows.Perm (table [] calls) ∧
    rows.map (·.seq) = [6, 4, 2] ∧
    events rows = ["feature/a", "feature/b", "master"].map fun ref =>
      { event ref with deferredAt := some (reading 2) } := by
  intro event reading calls rows
  have hclock : (calls.filterMap (·.1.reading?)).Pairwise (· ≤ ·) := by decide
  have hseq : (insertions [] calls).Pairwise (·.seq < ·.seq) := by decide +kernel
  have hp : rows.Perm (table [] calls) := List.reverse_perm _
  have hlist := events_as_queued.2.2 calls hclock hseq rows hp
  refine ⟨hclock, hseq, hp, by decide +kernel, ?_⟩
  rw [← QueueAnswer.found.injEq, ← hlist]
  decide +kernel

end DeferredRow

end BuildScheduler
