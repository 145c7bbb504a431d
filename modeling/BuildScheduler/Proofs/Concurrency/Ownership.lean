import BuildScheduler.Proofs.Concurrency.Crew

/-!
# Who owns a lock

A release deletes by name. A launch that creates its pod for longer than its lock lives can so
delete the record of another one that took the lock over: such a release is stray. As long as no
release of a name was stray, the record of a launch stays in place until the launch releases it
or the clock passes its end (`ownership`).
-/

namespace BuildScheduler

namespace Launch

/-- The lock name that a launch took and still has to use or give back. -/
def taken? : Launch → Option String
  | .creating event _ _ => some event.lockName
  | .releasing event _ _ => some event.lockName
  | _ => none

section Moved

variable {launch next : Launch} {world after : World κ} {calls : List Call}

/-- What a move does to the lock store: nothing, a write over a record that is not live, or a
delete of the name that was taken. -/
theorem Move.lock_cases (move : Move launch world next after calls) :
    (∀ call ∈ calls, call.written? = none ∧ call.deleted? = none) ∧ after.locks = world.locks ∨
    (∃ event id project, launch = .acquiring event id project ∧
      world.locks.isHeld event.lockName world.now = false ∧
      after.locks = world.locks.write (event.lockRecord world.now world.ttl) ∧
      calls = [.put (event.lockRecord world.now world.ttl) world.now (.ok true)]) ∨
    ∃ event id cause, launch = .releasing event id cause ∧
      after.locks = world.locks.delete event.lockName ∧
      calls = [.delete event.lockName (.ok ())] := by
  cases move with
  | acquired event id project world outages hf hh =>
      exact .inr (.inl ⟨event, id, project, rfl, hh, rfl, rfl⟩)
  | released event id cause world outages =>
      exact .inr (.inr ⟨event, id, cause, rfl, rfl, rfl⟩)
  | _ => exact .inl ⟨by simp [Call.written?, Call.deleted?], rfl⟩

/-- A live record under the name sends a launch on to its deferral, if the calendar has the end of
the lock that it asks for. -/
theorem step_acquiring_of_held (cluster : Cluster κ) (event : BuildEvent) (id : BuildId)
    (project : Project) (world : World κ)
    (hh : world.locks.isHeld event.lockName world.now = true) :
    ((acquiring event id project).step (World.site cluster) world).1 =
      if world.ttl.Fits world.now then .deferring event id else .panicked := by
  have move := move_step cluster (acquiring event id project) world
  generalize (acquiring event id project).calls (World.collaborators cluster) world = calls at move
  generalize (acquiring event id project).step (World.site cluster) world = moved at move ⊢
  obtain ⟨next, after⟩ := moved
  cases move with
  | acquired event id project world outages hf hfree =>
      rw [hh] at hfree
      cases hfree
  | refused event id project world outages hf => rw [if_pos hf]
  | unanswered event id project world outages error hf => rw [if_pos hf]
  | panicked event id project world hf => rw [if_neg hf]

/-- A name that is taken after a move was taken before it or is written by it. -/
theorem Move.taken (move : Move launch world next after calls) {name : String}
    (h : next.taken? = some name) :
    launch.taken? = some name ∨
      ∃ record, record.name = name ∧ ∃ call ∈ calls, call.written? = some record := by
  cases move with
  | acquired event id project world outages hf hh =>
      exact .inr ⟨event.lockRecord world.now world.ttl, Option.some.inj h, _,
        List.mem_singleton_self _, rfl⟩
  | uncreated event id project world state elapsed error => exact .inl h
  | _ => cases h

/-- A launch without a result after a move had none before it, and the move deletes nothing. -/
theorem Move.unfinished (move : Move launch world next after calls) (h : next.result? = none) :
    launch.result? = none ∧ ∀ call ∈ calls, call.deleted? = none := by
  cases move with
  | accepted | acquired | refused | unanswered | panicked | uncreated | gone =>
      exact ⟨rfl, by simp [Call.deleted?]⟩
  | _ => cases h

end Moved

end Launch

namespace Crew

/-! ## Members and the log -/

/-- The log has a record for each name that a member took, no delete of a member without a result,
and the store holds what the holders wrote. -/
structure Coherent (crew : Crew κ) : Prop where
  taken : ∀ index member name, crew.members[index]? = some member →
    member.launch.taken? = some name → ∃ record, record.name = name ∧ Wrote crew.log index record
  unreleased : ∀ index member name, crew.members[index]? = some member →
    member.launch.result? = none → ¬ Released crew.log index name
  stored : ∀ name index record, holder name crew.log = some (index, record) →
    record.name = name ∧ crew.world.locks.get? name = some record

theorem coherent_start (triggers : List BuildEvent) (world : World κ) :
    Coherent (start triggers world) where
  taken index member name hm ht := by
    obtain ⟨trigger, _, rfl⟩ := List.mem_map.1 (List.mem_of_getElem? hm)
    cases ht
  unreleased index member name _ _ := by
    rintro ⟨entry, he, _⟩
    cases he
  stored name index record h := by cases h

section Moved

variable {crew : Crew κ} {index : Nat} {member : Member} {next : Launch} {after : World κ}
  {calls : List Call} (hc : crew.Coherent) (hm : crew.members[index]? = some member)
  (move : Launch.Move member.launch crew.world next after calls)

include hc hm move

theorem taken_moved (other : Nat) (changed : Member) (name : String)
    (ho : (crew.members.set index { member with launch := next })[other]? = some changed)
    (ht : changed.launch.taken? = some name) :
    ∃ record, record.name = name ∧
      Wrote (crew.log ++ entries index crew.world.now calls) other record := by
  have hold : ∀ record, Wrote crew.log other record →
      Wrote (crew.log ++ entries index crew.world.now calls) other record :=
    fun record h => wrote_append.2 (.inl h)
  by_cases hi : index = other
  · subst hi
    rw [List.getElem?_set_self' , hm] at ho
    cases ho
    obtain hb | ⟨record, hn, hw⟩ := move.taken ht
    · obtain ⟨record, hn, hw⟩ := hc.taken index member name hm hb
      exact ⟨record, hn, hold record hw⟩
    · exact ⟨record, hn, wrote_append.2 (.inr (wrote_entries.2 ⟨rfl, hw⟩))⟩
  · rw [List.getElem?_set_ne hi] at ho
    obtain ⟨record, hn, hw⟩ := hc.taken other changed name ho ht
    exact ⟨record, hn, hold record hw⟩

theorem unreleased_moved (other : Nat) (changed : Member) (name : String)
    (ho : (crew.members.set index { member with launch := next })[other]? = some changed)
    (hr : changed.launch.result? = none) :
    ¬ Released (crew.log ++ entries index crew.world.now calls) other name := by
  rw [released_append, released_entries]
  by_cases hi : index = other
  · subst hi
    rw [List.getElem?_set_self', hm] at ho
    cases ho
    obtain ⟨hl, hd⟩ := move.unfinished hr
    rintro (hb | ⟨_, call, hcall, hn⟩)
    · exact hc.unreleased index member name hm hl hb
    · rw [hd call hcall] at hn
      cases hn
  · rw [List.getElem?_set_ne hi] at ho
    rintro (hb | ⟨he, _⟩)
    · exact hc.unreleased other changed name ho hr hb
    · exact hi he

omit hm in
theorem stored_moved (name : String) (owner : Nat) (record : LockRecord)
    (hh : holder name (crew.log ++ entries index crew.world.now calls) = some (owner, record)) :
    record.name = name ∧ after.locks.get? name = some record := by
  obtain ⟨hq, hl⟩ | ⟨event, id, project, _, _, hl, rfl⟩ | ⟨event, id, cause, _, hl, rfl⟩ :=
    move.lock_cases
  · rw [holder_of_quiet hq] at hh
    rw [hl]
    exact hc.stored name owner record hh
  · rw [holder_written, event.name_lockRecord] at hh
    rw [hl, LockStore.get?_write, event.name_lockRecord]
    by_cases hn : event.lockName = name
    · rw [if_pos hn] at hh
      cases hh
      rw [if_pos hn.symm]
      exact ⟨hn, rfl⟩
    · rw [if_neg hn] at hh
      rw [if_neg (Ne.symm hn)]
      exact hc.stored name owner record hh
  · rw [holder_deleted] at hh
    rw [hl, LockStore.get?_delete]
    by_cases hn : event.lockName = name
    · rw [if_pos hn] at hh
      cases hh
    · rw [if_neg hn] at hh
      rw [if_neg (Ne.symm hn)]
      exact hc.stored name owner record hh

end Moved

theorem coherent_change {crew after : Crew κ} (change : Change crew after) (hc : crew.Coherent) :
    after.Coherent := by
  cases change with
  | waited nanos => exact ⟨hc.taken, hc.unreleased, hc.stored⟩
  | absent => exact hc
  | moved index member next after calls hm move =>
      exact ⟨taken_moved hc hm move, unreleased_moved hc hm move, stored_moved hc move⟩

theorem coherent_run (cluster : Cluster κ) (triggers : List BuildEvent) (world : World κ)
    (turns : List Turn) : ((start triggers world).run cluster turns).Coherent :=
  run_keeps (fun _ _ change hc => coherent_change change hc) cluster turns _
    (coherent_start triggers world)

/-! ## Stray releases -/

/-- A call, after those before it, deletes the record that another member wrote, when the own
record of the member that makes it has expired. -/
def Stray (name : String) (before : List Entry) (entry : Entry) : Prop :=
  entry.call.deleted? = some name ∧
  (∃ owner record, holder name before = some (owner, record) ∧ owner ≠ entry.member) ∧
  ∃ record, record.name = name ∧ Wrote before entry.member record ∧
    record.expiresAt < entry.time

def Strayed (name : String) (log : List Entry) : Prop :=
  ∃ before entry after, log = before ++ entry :: after ∧ Stray name before entry

theorem strayed_append {name : String} {log : List Entry} (more : List Entry)
    (h : Strayed name log) : Strayed name (log ++ more) := by
  obtain ⟨before, entry, after, rfl, hs⟩ := h
  exact ⟨before, entry, after ++ more, by simp, hs⟩

/-- Releases that come before the end of the own record are not stray. -/
theorem not_strayed_of_inTime {name : String} {log : List Entry}
    (h : ∀ entry ∈ log, entry.call.deleted? = some name → ∀ own ∈ log,
      own.member = entry.member → ∀ record ∈ own.call.written?, entry.time ≤ record.expiresAt) :
    ¬ Strayed name log := by
  rintro ⟨before, entry, after, rfl, hd, _, record, _, ⟨own, ho, hi, hw⟩, hl⟩
  have he : entry ∈ before ++ entry :: after := by simp
  have hm : own ∈ before ++ entry :: after := List.mem_append_left _ ho
  exact Instant.not_lt.2 (h entry he hd own hm hi record hw) hl

/-! ## Ownership -/

/-- While no release of a name was stray, a member that wrote a record of it and has not deleted
it holds the name up to the end of the record. -/
def Owned (name : String) (crew : Crew κ) : Prop :=
  ¬ Strayed name crew.log → ∀ index record, Wrote crew.log index record → record.name = name →
    ¬ Released crew.log index name → crew.world.now ≤ record.expiresAt →
    holder name crew.log = some (index, record)

theorem isHeld_of_live {store : LockStore} {name : String} {record : LockRecord} {now : Instant}
    (hg : store.get? name = some record) (ht : now ≤ record.expiresAt) :
    store.isHeld name now = true := by
  have he : record.isExpired now = false := decide_eq_false (Instant.not_lt.2 ht)
  simp only [LockStore.isHeld, hg, Option.any_some, he, Bool.not_false]

/-- A member that is about to release took the name, and holds it up to the end of its record. -/
theorem own_of_releasing {crew : Crew κ} (hc : crew.Coherent) {index : Nat} {member : Member}
    (hm : crew.members[index]? = some member) {event : BuildEvent} {id : BuildId} {cause : Error}
    (hl : member.launch = .releasing event id cause) (hw : crew.Owned event.lockName)
    (hs : ¬ Strayed event.lockName crew.log) :
    ∃ own : LockRecord, own.name = event.lockName ∧ Wrote crew.log index own ∧
      (crew.world.now ≤ own.expiresAt → holder event.lockName crew.log = some (index, own)) := by
  have ht : member.launch.taken? = some event.lockName := by
    rw [hl]
    rfl
  have hr : member.launch.result? = none := by
    rw [hl]
    rfl
  obtain ⟨own, hn, hwrote⟩ := hc.taken index member _ hm ht
  exact ⟨own, hn, hwrote, hw hs index own hwrote hn (hc.unreleased index member _ hm hr)⟩

section Moved

variable {crew : Crew κ} {index : Nat} {member : Member} {next : Launch} {after : World κ}
  {calls : List Call} (hc : crew.Coherent) (hm : crew.members[index]? = some member)
  (move : Launch.Move member.launch crew.world next after calls) {name : String}
  (hw : crew.Owned name)

include hc hm move hw

theorem owned_moved (hs : ¬ Strayed name (crew.log ++ entries index crew.world.now calls))
    (owner : Nat) (record : LockRecord)
    (hr : Wrote (crew.log ++ entries index crew.world.now calls) owner record)
    (hn : record.name = name)
    (hd : ¬ Released (crew.log ++ entries index crew.world.now calls) owner name)
    (ht : after.now ≤ record.expiresAt) :
    holder name (crew.log ++ entries index crew.world.now calls) = some (owner, record) := by
  have hs' : ¬ Strayed name crew.log := fun h => hs (strayed_append _ h)
  have hd' : ¬ Released crew.log owner name := fun h => hd (released_append.2 (.inl h))
  have ht' : crew.world.now ≤ record.expiresAt := Instant.le_trans move.now_le ht
  rw [wrote_append, wrote_entries] at hr
  obtain ⟨hq, _⟩ | ⟨event, id, project, hl, hh, _, rfl⟩ | ⟨event, id, cause, hl, _, rfl⟩ :=
    move.lock_cases
  · rw [holder_of_quiet hq]
    obtain hr | ⟨_, call, hcall, hr⟩ := hr
    · exact hw hs' owner record hr hn hd' ht'
    · rw [(hq call hcall).1] at hr
      cases hr
  · rw [holder_written, event.name_lockRecord]
    obtain hr | ⟨rfl, call, hcall, hr⟩ := hr
    · -- a live record of this name would have refused the put
      have ho := hw hs' owner record hr hn hd' ht'
      have hg := (hc.stored name owner record ho).2
      have hne : event.lockName ≠ name := by
        intro he
        rw [he, isHeld_of_live hg ht'] at hh
        cases hh
      rw [if_neg hne, ho]
    · rw [List.mem_singleton] at hcall
      subst hcall
      cases hr
      rw [event.name_lockRecord] at hn
      rw [if_pos hn]
  · obtain hr | ⟨_, call, hcall, hr⟩ := hr
    · have ho := hw hs' owner record hr hn hd' ht'
      rw [holder_deleted]
      by_cases he : event.lockName = name
      · subst he
        -- the member that deletes is neither the holder nor one that took the name in time
        exfalso
        obtain ⟨own, hown, hwrote, hheld⟩ := own_of_releasing hc hm hl hw hs'
        have hi : index ≠ owner := by
          intro hi
          exact hd (released_append.2 (.inr (released_entries.2
            ⟨hi, _, List.mem_singleton_self _, rfl⟩)))
        by_cases hlate : own.expiresAt < crew.world.now
        · exact hs ⟨crew.log, ⟨index, crew.world.now, .delete event.lockName (.ok ())⟩, [],
            rfl, rfl, ⟨owner, record, ho, Ne.symm hi⟩, own, hown, hwrote, hlate⟩
        · have hboth := ho.symm.trans (hheld (Instant.not_lt.1 hlate))
          cases hboth
          exact hi rfl
      · rw [if_neg he, ho]
    · rw [List.mem_singleton] at hcall
      subst hcall
      cases hr

end Moved

theorem owned_change {crew after : Crew κ} (change : Change crew after) (hc : crew.Coherent)
    {name : String} (hw : crew.Owned name) : after.Owned name := by
  cases change with
  | waited nanos =>
      intro hs index record hr hn hd ht
      have hn' : crew.world.now ≤ (crew.world.wait nanos).now :=
        Instant.add_le_add _ (Nat.le_add_right _ _)
      exact hw hs index record hr hn hd (Instant.le_trans hn' ht)
  | absent => exact hw
  | moved index member next after calls hm move => exact owned_moved hc hm move hw

theorem owned_run (cluster : Cluster κ) (triggers : List BuildEvent) (world : World κ)
    (turns : List Turn) (name : String) :
    ((start triggers world).run cluster turns).Owned name := by
  have hk : ∀ crew after : Crew κ, Change crew after → crew.Coherent ∧ crew.Owned name →
      after.Coherent ∧ after.Owned name :=
    fun crew after change h => ⟨coherent_change change h.1, owned_change change h.1 h.2⟩
  have h0 : (start triggers world).Coherent ∧ (start triggers world).Owned name := by
    refine ⟨coherent_start triggers world, ?_⟩
    rintro _ index record ⟨entry, he, _⟩
    cases he
  exact (run_keeps hk cluster turns _ h0).2

/-- As long as no release of a lock name was stray, the record that a launch wrote under it stays
in the store until the launch releases it or the clock passes its end: no launch gets the lock
meanwhile, and a release that comes before the end of its own record meets that record. -/
theorem ownership (cluster : Cluster κ) (triggers : List BuildEvent) (world : World κ)
    (turns : List Turn) (name : String)
    (hs : ¬ Strayed name ((start triggers world).run cluster turns).log) :
    let crew := (start triggers world).run cluster turns
    (∀ index record, Wrote crew.log index record → record.name = name →
      ¬ Released crew.log index name → crew.world.now ≤ record.expiresAt →
      holder name crew.log = some (index, record) ∧
      crew.world.locks.get? name = some record ∧
      ∀ event id project, event.lockName = name →
        ((Launch.acquiring event id project).step (World.site cluster) crew.world).1 =
          if crew.world.ttl.Fits crew.world.now then .deferring event id else .panicked) ∧
    ∀ index member event id cause, crew.members[index]? = some member →
      member.launch = .releasing event id cause → event.lockName = name →
      ∃ own, own.name = name ∧ Wrote crew.log index own ∧
        (crew.world.now ≤ own.expiresAt →
          holder name crew.log = some (index, own) ∧
          crew.world.locks.get? name = some own) := by
  intro crew
  have hc : crew.Coherent := coherent_run cluster triggers world turns
  have hw : crew.Owned name := owned_run cluster triggers world turns name
  refine ⟨?_, ?_⟩
  · intro index record hr hn hd ht
    have ho := hw hs index record hr hn hd ht
    have hg := (hc.stored name index record ho).2
    refine ⟨ho, hg, ?_⟩
    rintro event id project rfl
    exact Launch.step_acquiring_of_held cluster event id project crew.world (isHeld_of_live hg ht)
  · rintro index member event id cause hm hl rfl
    obtain ⟨own, hn, hwrote, hheld⟩ := own_of_releasing hc hm hl hw hs
    refine ⟨own, hn, hwrote, ?_⟩
    intro ht
    have ho := hheld ht
    exact ⟨ho, (hc.stored _ index own ho).2⟩

/-- The first launch fails and releases in time; the record of the second one stays. -/
theorem ownership_after_release :
    let crew := (start [sampleEvent, sampleEvent] (sampleWorld [some (.timeout "no answer")])).run
      Recorder.cluster [.step 0, .step 0, .step 0, .step 0, .step 1, .step 1]
    ¬ Strayed sampleEvent.lockName crew.log ∧
      crew.world.locks.get? sampleEvent.lockName =
        some (sampleEvent.lockRecord (Instant.ofNanos 0) (Span.ofMillis 1)) := by
  intro crew
  have hs : ¬ Strayed sampleEvent.lockName crew.log := not_strayed_of_inTime (by decide)
  have ho := (ownership _ _ _ _ _ hs).1 1
    (sampleEvent.lockRecord (Instant.ofNanos 0) (Span.ofMillis 1)) (by decide) rfl (by decide)
    (by decide)
  exact ⟨hs, ho.2.1⟩

/-- Without the condition a live record can go: the lock of the first launch expires while its
pod is created, the second launch takes the lock over, and the release of the first one deletes
the record of the second. -/
theorem live_record_deleted_by_other :
    ¬ ∀ (triggers : List BuildEvent) (world : World Recorder) (turns : List Turn) (index : Nat)
        (record : LockRecord),
      let crew := (start triggers world).run Recorder.cluster turns
      Wrote crew.log index record → ¬ Released crew.log index record.name →
        crew.world.now ≤ record.expiresAt →
        crew.world.locks.get? record.name = some record := by
  intro h
  have hg := h [sampleEvent, sampleEvent] (sampleWorld [some (.timeout "no answer")])
    [.step 0, .step 0, .wait 2000000, .step 1, .step 1, .step 0, .step 0] 1
    (sampleEvent.lockRecord (Instant.ofNanos 2000000) (Span.ofMillis 1))
    (by decide) (by decide) (by decide)
  exact absurd hg (by decide)

end Crew

end BuildScheduler
