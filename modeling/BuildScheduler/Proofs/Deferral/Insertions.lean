import BuildScheduler.Deferral
import Mathlib.Data.List.Induction
import Mathlib.Data.List.Nodup

/-!
# What becomes of queued entries

A queue is asked to defer, list, poll and remove, in any order. A deferral whose lock name is not
queued puts an entry in, and the place of that call among the calls tells the entry from all
others. It leaves with the first later call that takes its name: a poll, or a removal of the name.
`entries_accounted` says that the queue, the polls and the removals of any run have between them
each entry once, and in the order in which they went in.
-/

namespace BuildScheduler

/-- A call to a queue of deferred builds. A deferral reads the clock. -/
inductive QueueCall where
  | defer (event : BuildEvent) (now : Instant)
  | list
  | poll
  | remove (name : String)
deriving DecidableEq

namespace QueueCall

def reading? : QueueCall → Option Instant
  | .defer _ now => some now
  | _ => none

def takes (name : String) : QueueCall → Bool
  | .poll => true
  | .remove other => name == other
  | _ => false

end QueueCall

inductive QueueAnswer where
  | done
  | found (events : List BuildEvent)
deriving DecidableEq

/-- An entry that went in, with the place of its deferral among the calls. -/
structure Insertion where
  place : Nat
  entry : BuildEvent
deriving DecidableEq

/-- The place of the call that took an entry out; none while it is queued. -/
def Insertion.takenAt? (calls : List QueueCall) (insertion : Insertion) : Option Nat :=
  ((calls.drop (insertion.place + 1)).findIdx? (·.takes insertion.entry.lockName)).map
    (· + (insertion.place + 1))

/-- Both events are stamped, the second one no earlier than the first. -/
def BuildEvent.DeferredNoLater (first second : BuildEvent) : Prop :=
  ∃ earlier later, first.deferredAt = some earlier ∧ second.deferredAt = some later ∧
    earlier ≤ later

namespace DeferralQueue

/-! ## Runs -/

def answer (queue : DeferralQueue) : QueueCall → QueueAnswer × DeferralQueue
  | .defer event now => (.done, queue.defer event now)
  | .list => (.found queue.entries, queue)
  | .poll => (.found queue.poll.1, queue.poll.2)
  | .remove name => (.done, queue.remove name)

def run (queue : DeferralQueue) (calls : List QueueCall) : DeferralQueue :=
  calls.foldl (fun queue call => (queue.answer call).2) queue

def inserted? (queue : DeferralQueue) : QueueCall → Option BuildEvent
  | .defer event now =>
      if queue.contains event.lockName then none else some { event with deferredAt := some now }
  | _ => none

/-- What some calls put in, when the first of them has the given place. -/
def insertions : DeferralQueue → Nat → List QueueCall → List Insertion
  | _, _, [] => []
  | queue, place, call :: rest =>
      ((queue.inserted? call).map (Insertion.mk place)).toList ++
        insertions (queue.answer call).2 (place + 1) rest

theorem run_append (queue : DeferralQueue) (past later : List QueueCall) :
    queue.run (past ++ later) = (queue.run past).run later := List.foldl_append

theorem inserted?_eq_some_iff {queue : DeferralQueue} {call : QueueCall} {entry : BuildEvent} :
    queue.inserted? call = some entry ↔
      ∃ event now, call = .defer event now ∧ event.lockName ∉ queue.lockNames ∧
        entry = { event with deferredAt := some now } := by
  cases call with
  | defer event now =>
      by_cases h : event.lockName ∈ queue.lockNames
      · have hc := (contains_iff queue _).2 h
        constructor
        · intro hi
          simp [inserted?, hc] at hi
        · rintro ⟨other, time, he, hn, -⟩
          cases he
          exact absurd h hn
      · have hc : queue.contains event.lockName = false := by
          simpa using mt (contains_iff queue _).1 h
        simp only [inserted?, hc, Bool.false_eq_true, if_false, Option.some.injEq]
        constructor
        · rintro rfl
          exact ⟨event, now, rfl, h, rfl⟩
        · rintro ⟨other, time, he, -, rfl⟩
          cases he
          rfl
  | list => simp [inserted?]
  | poll => simp [inserted?]
  | remove name => simp [inserted?]

/-! ## One call -/

/-- What a call takes leaves the others in their order; what it puts in comes last. -/
theorem entries_answer (queue : DeferralQueue) (call : QueueCall) :
    (queue.answer call).2.entries =
      queue.entries.filter (fun entry => !call.takes entry.lockName) ++
        (queue.inserted? call).toList := by
  cases call with
  | defer event now =>
      cases hc : queue.contains event.lockName with
      | true => simp [answer, defer, inserted?, QueueCall.takes, hc, List.filter_true]
      | false => simp [answer, defer, inserted?, QueueCall.takes, hc, List.filter_true]
  | list => simp [answer, inserted?, QueueCall.takes, List.filter_true]
  | poll => simp [answer, poll, empty, inserted?, QueueCall.takes]
  | remove name => simp [answer, remove, inserted?, QueueCall.takes, bne]

theorem nodup_answer {queue : DeferralQueue} (h : queue.lockNames.Nodup) (call : QueueCall) :
    (queue.answer call).2.lockNames.Nodup := by
  cases call with
  | defer event now =>
      change (queue.defer event now).lockNames.Nodup
      rw [lockNames_defer]
      split
      · exact h
      · rename_i hn
        exact List.nodup_append.2 ⟨h, List.nodup_singleton _, fun name hm other ho he =>
          hn (List.mem_singleton.1 ho ▸ he ▸ hm)⟩
  | list => exact h
  | poll => exact List.nodup_nil
  | remove name =>
      change (queue.remove name).lockNames.Nodup
      rw [lockNames_remove]
      exact h.filter _

theorem nodup_run (calls : List QueueCall) : (empty.run calls).lockNames.Nodup := by
  induction calls using List.reverseRecOn with
  | nil => exact List.nodup_nil
  | append_singleton past call ih =>
      rw [run_append]
      exact nodup_answer ih call

theorem answer_defer_of_queued {queue : DeferralQueue} {event : BuildEvent}
    (h : event.lockName ∈ queue.lockNames) (now : Instant) :
    queue.answer (.defer event now) = (.done, queue) := by
  rw [answer, defer, if_pos ((contains_iff queue _).2 h)]

theorem filter_lockName_ne {entries : List BuildEvent} {name : String}
    (h : name ∉ entries.map BuildEvent.lockName) :
    entries.filter (·.lockName != name) = entries := by
  refine List.filter_eq_self.2 fun entry hm => ?_
  have hn : entry.lockName ≠ name := fun e => h (e ▸ List.mem_map_of_mem hm)
  simpa using hn

/-- A removal finds no entry of the name, or takes the one there is out of its place. -/
theorem answer_remove_cases {queue : DeferralQueue} (h : queue.lockNames.Nodup) (name : String) :
    (name ∉ queue.lockNames ∧ queue.answer (.remove name) = (.done, queue)) ∨
    ∃ before entry after, queue.entries = before ++ entry :: after ∧ entry.lockName = name ∧
      queue.answer (.remove name) = (.done, ⟨before ++ after⟩) := by
  by_cases hq : name ∈ queue.lockNames
  · obtain ⟨entry, hm, hn⟩ := List.mem_map.1 hq
    obtain ⟨before, after, he⟩ := List.append_of_mem hm
    refine .inr ⟨before, entry, after, he, hn, ?_⟩
    -- no other entry has the name, so the filter keeps both sides whole
    rw [lockNames, he, List.map_append, List.map_cons, hn, List.nodup_append, List.nodup_cons] at h
    have hb : name ∉ before.map BuildEvent.lockName :=
      fun hm => h.2.2 name hm name List.mem_cons_self rfl
    rw [answer, remove, he, List.filter_append, List.filter_cons_of_neg (by simp [hn]),
      filter_lockName_ne hb, filter_lockName_ne h.2.1.1]
  · refine .inl ⟨hq, ?_⟩
    rw [answer, remove, filter_lockName_ne hq]

/-! ## What goes in -/

theorem insertions_append (queue : DeferralQueue) (place : Nat) (past later : List QueueCall) :
    queue.insertions place (past ++ later) =
      queue.insertions place past ++ (queue.run past).insertions (place + past.length) later := by
  induction past generalizing queue place with
  | nil => rfl
  | cons call rest ih =>
      have hp : place + 1 + rest.length = place + (rest.length + 1) := by omega
      rw [List.cons_append, insertions, insertions, ih, List.append_assoc, hp]
      rfl

theorem mem_insertions {queue : DeferralQueue} {place : Nat} {calls : List QueueCall}
    {insertion : Insertion} :
    insertion ∈ queue.insertions place calls ↔
      ∃ index call, insertion.place = place + index ∧ calls[index]? = some call ∧
        (queue.run (calls.take index)).inserted? call = some insertion.entry := by
  induction calls generalizing queue place with
  | nil => simp [insertions]
  | cons first rest ih =>
      rw [insertions, List.mem_append, ih]
      constructor
      · rintro (h | ⟨index, call, hp, hc, hi⟩)
        · rw [Option.mem_toList, Option.map_eq_some_iff] at h
          obtain ⟨entry, he, rfl⟩ := h
          exact ⟨0, first, rfl, rfl, he⟩
        · exact ⟨index + 1, call, by omega, hc, hi⟩
      · rintro ⟨index, call, hp, hc, hi⟩
        cases index with
        | zero =>
            cases hc
            refine .inl ?_
            rw [Option.mem_toList, Option.map_eq_some_iff]
            exact ⟨insertion.entry, hi, congrArg (Insertion.mk · insertion.entry) hp.symm⟩
        | succ index => exact .inr ⟨index, call, by omega, hc, hi⟩

theorem place_le_of_mem {queue : DeferralQueue} {place : Nat} {calls : List QueueCall}
    {insertion : Insertion} (h : insertion ∈ queue.insertions place calls) :
    place ≤ insertion.place ∧ insertion.place < place + calls.length := by
  obtain ⟨index, call, hp, hc, -⟩ := mem_insertions.1 h
  have hl : index < calls.length := (List.getElem?_eq_some_iff.1 hc).1
  omega

theorem pairwise_place (queue : DeferralQueue) (place : Nat) (calls : List QueueCall) :
    (queue.insertions place calls).Pairwise (·.place < ·.place) := by
  induction calls generalizing queue place with
  | nil => exact List.Pairwise.nil
  | cons call rest ih =>
      rw [insertions, List.pairwise_append]
      refine ⟨?_, ih _ _, ?_⟩
      · cases queue.inserted? call with
        | none => exact List.Pairwise.nil
        | some entry => exact List.pairwise_singleton _ _
      · intro first hf second hs
        rw [Option.mem_toList, Option.map_eq_some_iff] at hf
        obtain ⟨entry, -, rfl⟩ := hf
        exact (place_le_of_mem hs).1

/-- The stamps of what goes in are readings of the clock, in their order. -/
theorem stamps_sublist (queue : DeferralQueue) (place : Nat) (calls : List QueueCall) :
    ((queue.insertions place calls).map (·.entry.deferredAt)).Sublist
      ((calls.filterMap QueueCall.reading?).map some) := by
  induction calls generalizing queue place with
  | nil => exact List.Sublist.slnil
  | cons call rest ih =>
      rw [insertions, List.map_append]
      cases call with
      | defer event now =>
          cases hc : queue.contains event.lockName with
          | true =>
              simp only [inserted?, hc, if_true, Option.map_none, Option.toList_none,
                List.map_nil, List.nil_append]
              exact (ih _ _).cons _
          | false =>
              simp only [inserted?, hc, Bool.false_eq_true, if_false, Option.map_some,
                Option.toList_some, List.map_cons, List.map_nil, List.singleton_append]
              exact (ih _ _).cons_cons _
      | list => exact ih _ _
      | poll => exact ih _ _
      | remove name => exact ih _ _

theorem pairwise_deferredNoLater {queue : DeferralQueue} {place : Nat} {calls : List QueueCall}
    (h : (calls.filterMap QueueCall.reading?).Pairwise (· ≤ ·)) :
    (queue.insertions place calls).Pairwise fun first second =>
      first.entry.DeferredNoLater second.entry := by
  have hs : ((calls.filterMap QueueCall.reading?).map some).Pairwise fun first second =>
      ∃ earlier later, first = some earlier ∧ second = some later ∧ earlier ≤ later :=
    List.pairwise_map.2 (h.imp fun hle => ⟨_, _, rfl, rfl, hle⟩)
  have hp := hs.sublist (stamps_sublist queue place calls)
  rwa [List.pairwise_map] at hp

/-! ## Where it is -/

section Taken

variable {past later : List QueueCall} {insertion : Insertion}

/-- What has gone in is taken by the past, or else by what comes later. -/
theorem takenAt?_append (h : insertion.place < past.length) :
    insertion.takenAt? (past ++ later) = (insertion.takenAt? past).or
      ((later.findIdx? (·.takes insertion.entry.lockName)).map (· + past.length)) := by
  have hl : past.length - (insertion.place + 1) + (insertion.place + 1) = past.length := by omega
  rw [Insertion.takenAt?, Insertion.takenAt?, List.drop_append_of_le_length h,
    List.findIdx?_append, Option.map_or, Option.map_map, List.length_drop]
  congr 2
  funext index
  rw [Function.comp_apply, Nat.add_assoc, hl]

theorem place_lt_of_takenAt? {calls : List QueueCall} {place : Nat}
    (h : insertion.takenAt? calls = some place) : insertion.place < place := by
  obtain ⟨index, -, rfl⟩ := Option.map_eq_some_iff.1 h
  omega

/-- The call that took an entry out is a poll or a removal of its name. -/
theorem taker_of_takenAt? {calls : List QueueCall} {place : Nat}
    (h : insertion.takenAt? calls = some place) :
    calls[place]? = some .poll ∨ calls[place]? = some (.remove insertion.entry.lockName) := by
  obtain ⟨index, hi, rfl⟩ := Option.map_eq_some_iff.1 h
  obtain ⟨hl, ht, -⟩ := List.findIdx?_eq_some_iff_getElem.1 hi
  have hg : calls[index + (insertion.place + 1)]? =
      some ((calls.drop (insertion.place + 1))[index]) := by
    rw [← List.getElem?_eq_getElem hl, List.getElem?_drop, Nat.add_comm]
  rw [hg]
  cases hc : (calls.drop (insertion.place + 1))[index] with
  | poll => exact .inl rfl
  | remove name =>
      rw [hc, QueueCall.takes, beq_iff_eq] at ht
      exact .inr (ht ▸ rfl)
  | defer event now => rw [hc] at ht; cases ht
  | list => rw [hc] at ht; cases ht

theorem place_lt_length_of_takenAt? {calls : List QueueCall} {place : Nat}
    (h : insertion.takenAt? calls = some place) : place < calls.length := by
  obtain hp | hr := taker_of_takenAt? h
  · exact (List.getElem?_eq_some_iff.1 hp).1
  · exact (List.getElem?_eq_some_iff.1 hr).1

end Taken

/-- What is in the queue went in and was not taken out. -/
theorem entries_run (calls : List QueueCall) :
    (empty.run calls).entries =
      ((empty.insertions 0 calls).filter (·.takenAt? calls = none)).map (·.entry) := by
  induction calls using List.reverseRecOn with
  | nil => rfl
  | append_singleton past call ih =>
      have hold : (empty.insertions 0 past).filter (·.takenAt? (past ++ [call]) = none) =
          ((empty.insertions 0 past).filter (·.takenAt? past = none)).filter
            (fun insertion => !call.takes insertion.entry.lockName) := by
        rw [List.filter_filter]
        refine List.filter_congr fun insertion hm => ?_
        rw [takenAt?_append (by simpa using (place_le_of_mem hm).2)]
        cases insertion.takenAt? past with
        | none => cases ht : call.takes insertion.entry.lockName <;> simp [List.findIdx?_cons, ht]
        | some place => simp
      have hnew : ((empty.run past).insertions past.length [call]).filter
          (·.takenAt? (past ++ [call]) = none) =
            (empty.run past).insertions past.length [call] := by
        refine List.filter_eq_self.2 fun insertion hm => ?_
        have hp := (place_le_of_mem hm).1
        rw [Insertion.takenAt?, List.drop_eq_nil_of_le (by simp; omega)]
        rfl
      rw [run_append, insertions_append, Nat.zero_add, List.filter_append, List.map_append, hold,
        hnew]
      change ((empty.run past).answer call).2.entries = _
      rw [entries_answer, ih, List.filter_map]
      congr 1
      simp only [insertions, List.append_nil]
      cases (empty.run past).inserted? call with
      | none => rfl
      | some entry => rfl

/-- What a call takes out of the queue is what is taken at its place. -/
theorem entries_taken {calls : List QueueCall} {place : Nat} {call : QueueCall}
    (h : calls[place]? = some call) :
    (empty.run (calls.take place)).entries.filter (fun entry => call.takes entry.lockName) =
      ((empty.insertions 0 calls).filter (·.takenAt? calls = some place)).map (·.entry) := by
  obtain ⟨past, later, rfl, rfl⟩ : ∃ past later, calls = past ++ call :: later ∧
      place = past.length := by
    obtain ⟨hl, rfl⟩ := List.getElem?_eq_some_iff.1 h
    refine ⟨calls.take place, calls.drop (place + 1), ?_,
      (List.length_take_of_le (Nat.le_of_lt hl)).symm⟩
    rw [← List.drop_eq_getElem_cons hl, List.take_append_drop]
  have hold : (empty.insertions 0 past).filter
      (·.takenAt? (past ++ call :: later) = some past.length) =
        ((empty.insertions 0 past).filter (·.takenAt? past = none)).filter
          (fun insertion => call.takes insertion.entry.lockName) := by
    rw [List.filter_filter]
    refine List.filter_congr fun insertion hm => ?_
    rw [takenAt?_append (by simpa using (place_le_of_mem hm).2)]
    cases hp : insertion.takenAt? past with
    | none =>
        cases ht : call.takes insertion.entry.lockName with
        | true => simp [List.findIdx?_cons, ht]
        | false =>
            simp only [List.findIdx?_cons, ht, Bool.false_eq_true, if_false, Option.none_or,
              Bool.false_and, decide_eq_false_iff_not, Option.map_map, Option.map_eq_some_iff,
              Function.comp_apply]
            rintro ⟨found, -, hf⟩
            omega
    | some place =>
        have hlt := place_lt_length_of_takenAt? hp
        simp only [Option.some_or, Option.some.injEq, reduceCtorEq, decide_false,
          Bool.and_false, decide_eq_false_iff_not]
        omega
  have hnew : ((empty.run past).insertions past.length (call :: later)).filter
      (·.takenAt? (past ++ call :: later) = some past.length) = [] := by
    refine List.filter_eq_nil_iff.2 fun insertion hm ht => ?_
    have hlt := place_lt_of_takenAt? (of_decide_eq_true ht)
    have hle := (place_le_of_mem hm).1
    omega
  rw [List.take_left, insertions_append, Nat.zero_add, List.filter_append, hold, hnew,
    List.append_nil, entries_run, List.filter_map]
  rfl

/-- After any calls to an empty queue, at clock readings that do not decrease, the entries have
different lock names and stand in the order of their stamps. What went in are the events of the
deferrals that found their name free, stamped with their readings. Each of them is in the queue, in
the answer of one poll or taken by one removal of its name, and each of these has exactly its own,
in the order in which they went in. A deferral of a queued name and a list change nothing, a poll
answers what a list does and leaves nothing, and a removal takes the entry of its name, if there is
one, from between the others. -/
theorem entries_accounted (calls : List QueueCall)
    (hclock : (calls.filterMap QueueCall.reading?).Pairwise (· ≤ ·)) :
    let queue := empty.run calls
    let insertions := empty.insertions 0 calls
    let taken (place : Option Nat) : List BuildEvent :=
      (insertions.filter (·.takenAt? calls = place)).map (·.entry)
    (queue.lockNames.Nodup ∧ queue.entries.Pairwise BuildEvent.DeferredNoLater) ∧
    (insertions.Pairwise (·.place < ·.place) ∧
      ∀ place entry, ⟨place, entry⟩ ∈ insertions ↔
        ∃ event now, calls[place]? = some (.defer event now) ∧
          event.lockName ∉ (empty.run (calls.take place)).lockNames ∧
          entry = { event with deferredAt := some now }) ∧
    (queue.entries = taken none ∧
      (∀ place, calls[place]? = some .poll →
        ((empty.run (calls.take place)).answer .poll).1 = .found (taken (some place))) ∧
      (∀ place name, calls[place]? = some (.remove name) →
        (empty.run (calls.take place)).entries.filter (·.lockName == name) = taken (some place)) ∧
      ∀ insertion ∈ insertions, ∀ place, insertion.takenAt? calls = some place →
        insertion.place < place ∧ (calls[place]? = some .poll ∨
          calls[place]? = some (.remove insertion.entry.lockName))) ∧
    (∀ event now, event.lockName ∈ queue.lockNames →
      queue.answer (.defer event now) = (.done, queue)) ∧
    queue.answer .list = (.found queue.entries, queue) ∧
    queue.answer .poll = ((queue.answer .list).1, .empty) ∧
    ∀ name, (name ∉ queue.lockNames ∧ queue.answer (.remove name) = (.done, queue)) ∨
      ∃ before entry after, queue.entries = before ++ entry :: after ∧ entry.lockName = name ∧
        queue.answer (.remove name) = (.done, ⟨before ++ after⟩) := by
  intro queue insertions taken
  have hkept : queue.entries = taken none := entries_run calls
  refine ⟨⟨nodup_run calls, ?_⟩, ⟨pairwise_place empty 0 calls, ?_⟩, ⟨hkept, ?_, ?_, ?_⟩, ?_, rfl,
    rfl, answer_remove_cases (nodup_run calls)⟩
  · rw [hkept, List.pairwise_map]
    exact (pairwise_deferredNoLater hclock).filter _
  · intro place entry
    simp only [insertions, mem_insertions, inserted?_eq_some_iff, Nat.zero_add]
    constructor
    · rintro ⟨_, _, rfl, hc, event, now, rfl, hn, he⟩
      exact ⟨event, now, hc, hn, he⟩
    · rintro ⟨event, now, hc, hn, he⟩
      exact ⟨place, _, rfl, hc, event, now, rfl, hn, he⟩
  · intro place hc
    have ht := entries_taken hc
    simp only [QueueCall.takes, List.filter_true] at ht
    exact congrArg QueueAnswer.found ht
  · intro place name hc
    exact entries_taken hc
  · intro insertion _ place ht
    exact ⟨place_lt_of_takenAt? ht, taker_of_takenAt? ht⟩
  · intro event now hq
    exact answer_defer_of_queued hq now

/-- An entry removed from behind another one, a second deferral of a queued name, and a deferral of
a polled one. -/
theorem entries_accounted_of_redeferral :
    let event (ref : String) : BuildEvent := { team := "acme", project := "widgets", ref }
    let reading (second : Nat) : Instant := ⟨second, 0, by decide⟩
    let calls : List QueueCall := [.defer (event "master") (reading 1),
      .defer (event "feature/a") (reading 2), .defer (event "master") (reading 3),
      .remove "acme/widgets/feature/a", .poll, .defer (event "master") (reading 3), .list]
    (calls.filterMap QueueCall.reading?).Pairwise (· ≤ ·) ∧
    (empty.insertions 0 calls).map (fun insertion =>
      (insertion.place, insertion.takenAt? calls)) = [(0, some 4), (1, some 3), (5, none)] ∧
    (empty.run calls).entries = [{ event "master" with deferredAt := some (reading 3) }] ∧
    ((empty.run (calls.take 4)).answer .poll).1 =
      .found [{ event "master" with deferredAt := some (reading 1) }] := by
  intro event reading calls
  have hclock : (calls.filterMap QueueCall.reading?).Pairwise (· ≤ ·) := by decide
  obtain ⟨-, -, ⟨hkept, hpolls, -⟩, -⟩ := entries_accounted calls hclock
  refine ⟨hclock, by decide +kernel, ?_, ?_⟩
  · rw [hkept]
    decide +kernel
  · rw [hpolls 4 rfl]
    decide +kernel

end DeferralQueue

end BuildScheduler
