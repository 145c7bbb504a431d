import BuildScheduler.Proofs.Concurrency.Ownership
import BuildScheduler.Proofs.Concurrency.Phases

/-!
# One build per lock name

Admitted launches of one lock name, in any order of steps, contest for its lock. The first put
wins it and all others yield, as long as no lock ends meanwhile. `Settled` ties the lock store,
the queue, the calls and the phases of the launches together; `one_build` reads it off when all
launches are finished.
-/

namespace BuildScheduler

namespace Crew

/-- Every call was answered, and no record that was written ends before an instant that the clock
has not passed. -/
structure Calm (horizon : Instant) (crew : Crew κ) : Prop where
  answered : ∀ entry ∈ crew.log, entry.call.answered = true
  live : ∀ entry ∈ crew.log, ∀ record ∈ entry.call.written?, horizon ≤ record.expiresAt
  early : crew.world.now ≤ horizon

/-- No launch of the name has got as far as its put, and the name has no live record. -/
def Free (name : String) (crew : Crew κ) : Prop :=
  crew.world.locks.isHeld name crew.world.now = false ∧ tally crew.members name Launch.wins = 0 ∧
    tally crew.members name Launch.yields = 0

/-- One launch of the name has won, and the store has its record. -/
def Taken (name : String) (crew : Crew κ) : Prop :=
  tally crew.members name Launch.wins = 1 ∧ ∃ index member record,
    crew.members[index]? = some member ∧ member.trigger.lockName = name ∧
    member.launch.wins = true ∧ Wrote crew.log index record ∧
    crew.world.locks.get? name = some record

structure Settled (name : String) (crew : Crew κ) : Prop where
  admitted : ∀ member ∈ crew.members, crew.world.admits member.trigger = true
  smooth : ∀ member ∈ crew.members, member.launch.Smooth member.trigger
  contest : Free name crew ∨ Taken name crew
  queued : crew.world.queue.lockNames.count name =
    if 0 < tally crew.members name Launch.isDeferred then 1 else 0
  submitted : crew.log.countP (·.call.submits name) = tally crew.members name Launch.isLaunched

theorem Calm.before {horizon : Instant} {crew after : Crew κ} (change : Change crew after)
    (hc : after.Calm horizon) : crew.Calm horizon := by
  obtain ⟨more, hl⟩ := change.log_prefix
  have hsub : ∀ entry ∈ crew.log, entry ∈ after.log := by
    intro entry he
    rw [hl]
    exact List.mem_append_left _ he
  refine ⟨fun entry he => hc.answered entry (hsub entry he),
    fun entry he => hc.live entry (hsub entry he), Instant.le_trans change.now_le hc.early⟩

/-- A name that is not held stays so while nobody writes its record. -/
theorem isHeld_of_later {store after : LockStore} {name : String} {now later : Instant}
    (hg : after.get? name = store.get? name) (ht : now ≤ later)
    (hf : store.isHeld name now = false) : after.isHeld name later = false := by
  unfold LockStore.isHeld at hf ⊢
  rw [hg]
  cases hr : store.get? name with
  | none => rfl
  | some record =>
      rw [hr] at hf
      have he : record.expiresAt < now := by
        simpa [LockRecord.isExpired] using hf
      have hlate : record.isExpired later = true := decide_eq_true (Instant.lt_of_lt_of_le he ht)
      simp only [Option.any_some, hlate, Bool.not_true]

/-! ## What a move keeps of it -/

section Moved

variable {crew : Crew κ} {index : Nat} {member : Member} {next : Launch} {after : World κ}
  {calls : List Call} {name : String} {horizon : Instant}
  (hm : crew.members[index]? = some member)
  (move : Launch.Move member.launch crew.world next after calls)
  (hsmooth : member.launch.Smooth member.trigger)
  (hanswered : ∀ call ∈ calls, call.answered = true)

include hm in
theorem taken_kept {log : List Entry} (ht : crew.Taken name)
    (hw : member.trigger.lockName = name → next.wins = member.launch.wins)
    (hg : after.locks.get? name = crew.world.locks.get? name) :
    Taken name ⟨crew.members.set index { member with launch := next }, after,
      crew.log ++ log⟩ := by
  obtain ⟨hone, winner, won, record, hwm, hwn, hww, hwrote, hget⟩ := ht
  have htally : tally (crew.members.set index { member with launch := next }) name
      Launch.wins = 1 := by
    by_cases hn : member.trigger.lockName = name
    · rw [tally_kept hm (hw hn), hone]
    · rw [tally_other hm hn, hone]
  have hwrote' : Wrote (crew.log ++ log) winner record := wrote_append.2 (.inl hwrote)
  refine ⟨htally, ?_⟩
  by_cases hi : index = winner
  · subst hi
    rw [hm] at hwm
    cases hwm
    refine ⟨index, { member with launch := next }, record, ?_, hwn, ?_, hwrote', hg.trans hget⟩
    · rw [List.getElem?_set_self', hm]
      rfl
    · exact (hw hwn).trans hww
  · refine ⟨winner, won, record, ?_, hwn, hww, hwrote', hg.trans hget⟩
    rw [← hwm]
    exact List.getElem?_set_ne hi

include hm in
theorem free_kept {log : List Entry} (hf : crew.Free name) (hnow : crew.world.now ≤ after.now)
    (hw : member.trigger.lockName = name →
      next.wins = member.launch.wins ∧ next.yields = member.launch.yields)
    (hg : after.locks.get? name = crew.world.locks.get? name) :
    Free name ⟨crew.members.set index { member with launch := next }, after,
      crew.log ++ log⟩ := by
  obtain ⟨hh, hwins, hyields⟩ := hf
  refine ⟨isHeld_of_later hg hnow hh, ?_, ?_⟩
  · by_cases hn : member.trigger.lockName = name
    · exact (tally_kept hm (hw hn).1).trans hwins
    · exact (tally_other hm hn).trans hwins
  · by_cases hn : member.trigger.lockName = name
    · exact (tally_kept hm (hw hn).2).trans hyields
    · exact (tally_other hm hn).trans hyields

include hm move hsmooth hanswered in
theorem contest_moved (hc : crew.Calm horizon) (h : crew.Free name ∨ crew.Taken name) :
    Free name ⟨crew.members.set index { member with launch := next }, after,
        crew.log ++ entries index crew.world.now calls⟩ ∨
      Taken name ⟨crew.members.set index { member with launch := next }, after,
        crew.log ++ entries index crew.world.now calls⟩ := by
  have hheld : crew.Taken name → crew.world.locks.isHeld name crew.world.now = true := by
    rintro ⟨_, winner, won, record, _, _, _, ⟨entry, he, _, hr⟩, hget⟩
    exact isHeld_of_live hget (Instant.le_trans hc.early (hc.live entry he record hr))
  obtain ⟨hl, hw, hy⟩ | ⟨hfree, hb, hw, record, hrn, hl, hcall⟩ | ⟨hh, hl, hw⟩ :=
    move.contest hsmooth hanswered
  · have hg : after.locks.get? name = crew.world.locks.get? name := by rw [hl]
    obtain hf | ht := h
    · exact .inl (free_kept hm hf move.now_le (fun _ => ⟨hw, hy⟩) hg)
    · exact .inr (taken_kept hm ht (fun _ => hw) hg)
  · by_cases hn : member.trigger.lockName = name
    · rw [hn] at hfree hrn
      obtain hf | ht := h
      · refine .inr ⟨?_, index, { member with launch := next }, record, ?_, hn, hw, ?_, ?_⟩
        · exact (tally_gained hm hn hb hw).trans (by rw [hf.2.1])
        · rw [List.getElem?_set_self', hm]
          rfl
        · exact wrote_append.2 (.inr (wrote_entries.2 ⟨rfl, hcall⟩))
        · rw [hl, LockStore.get?_write, if_pos hrn.symm]
      · rw [hheld ht] at hfree
        cases hfree
    · have hg : after.locks.get? name = crew.world.locks.get? name := by
        rw [hl, LockStore.get?_write, hrn, if_neg (Ne.symm hn)]
      obtain hf | ht := h
      · exact .inl (free_kept hm hf move.now_le (fun h => absurd h hn) hg)
      · exact .inr (taken_kept hm ht (fun h => absurd h hn) hg)
  · have hg : after.locks.get? name = crew.world.locks.get? name := by rw [hl]
    obtain hf | ht := h
    · refine .inl (free_kept hm hf move.now_le ?_ hg)
      intro hn
      rw [hn, hf.1] at hh
      cases hh
    · exact .inr (taken_kept hm ht (fun _ => hw) hg)

include hm move hsmooth in
theorem queued_moved
    (hq : crew.world.queue.lockNames.count name =
      if 0 < tally crew.members name Launch.isDeferred then 1 else 0) :
    after.queue.lockNames.count name =
      if 0 < tally (crew.members.set index { member with launch := next }) name
        Launch.isDeferred then 1 else 0 := by
  obtain ⟨hl, hd⟩ | ⟨hb, hd, event, he, hl⟩ := move.queue_cases hsmooth
  · rw [tally_kept hm hd, hl, hq]
  · rw [hl, DeferralQueue.count_lockNames_defer, he]
    by_cases hn : member.trigger.lockName = name
    · have hmem : 0 < crew.world.queue.lockNames.count name ↔
          name ∈ crew.world.queue.lockNames := List.count_pos_iff
      rw [tally_gained hm hn hb hd, if_pos (Nat.succ_pos _)]
      split at hq
      · rw [if_neg (by simp [← hmem, hq]), hq]
      · rw [if_pos (by simp [← hmem, hq, hn]), hq]
    · rw [tally_other hm hn, if_neg fun h => hn h.1, hq, Nat.add_zero]

include hm move hsmooth hanswered in
theorem submitted_moved
    (hs : crew.log.countP (·.call.submits name) =
      tally crew.members name Launch.isLaunched) :
    (crew.log ++ entries index crew.world.now calls).countP (·.call.submits name) =
      tally (crew.members.set index { member with launch := next }) name Launch.isLaunched := by
  rw [List.countP_append, hs]
  obtain ⟨hnone, hl⟩ | ⟨hb, hl, spec, hspec, rfl⟩ := move.submit_cases hsmooth hanswered
  · have hzero : (entries index crew.world.now calls).countP (·.call.submits name) = 0 := by
      refine List.countP_eq_zero.2 ?_
      intro entry he
      obtain ⟨call, hcall, rfl⟩ := List.mem_map.1 he
      simp [hnone name call hcall]
    rw [hzero, tally_kept hm hl, Nat.add_zero]
  · by_cases hn : member.trigger.lockName = name
    · rw [tally_gained hm hn hb hl]
      simp [entries, Call.submits, hspec, hn]
    · rw [tally_other hm hn]
      simp [entries, Call.submits, hspec, hn]

end Moved

theorem settled_change {crew after : Crew κ} {name : String} {horizon : Instant}
    (change : Change crew after) (hc : after.Calm horizon) (h : crew.Settled name) :
    after.Settled name := by
  have hb : crew.Calm horizon := hc.before change
  cases change with
  | waited nanos =>
      refine ⟨h.admitted, h.smooth, ?_, h.queued, h.submitted⟩
      obtain ⟨hh, ht⟩ | ht := h.contest
      · have hnow : crew.world.now ≤ (crew.world.wait nanos).now :=
          Instant.add_le_add _ (Nat.le_add_right _ _)
        exact .inl ⟨isHeld_of_later rfl hnow hh, ht⟩
      · exact .inr ht
  | absent => exact h
  | moved index member next after calls hm move =>
      have hmem : member ∈ crew.members := List.mem_of_getElem? hm
      have hsmooth := h.smooth member hmem
      have hanswered : ∀ call ∈ calls, call.answered = true := by
        intro call hcall
        exact hc.answered ⟨index, crew.world.now, call⟩
          (List.mem_append_right _ (List.mem_map_of_mem hcall))
      have hadmits : ∀ event, after.admits event = crew.world.admits event := by
        intro event
        rw [World.admits, World.admits, move.gate_eq, move.catalog_eq]
      have hnext : next.Smooth member.trigger :=
        move.smooth hsmooth hanswered (h.admitted member hmem)
      refine ⟨?_, ?_, contest_moved hm move hsmooth hanswered hb h.contest,
        queued_moved hm move hsmooth h.queued, submitted_moved hm move hsmooth hanswered
          h.submitted⟩
      · intro other ho
        rw [hadmits]
        obtain ho | rfl := List.mem_or_eq_of_mem_set ho
        · exact h.admitted other ho
        · exact h.admitted member hmem
      · intro other ho
        obtain ho | rfl := List.mem_or_eq_of_mem_set ho
        · exact h.smooth other ho
        · exact hnext

theorem settled_start {triggers : List BuildEvent} {world : World κ} {name : String}
    (hadmits : ∀ trigger ∈ triggers, world.admits trigger = true)
    (hfree : world.locks.isHeld name world.now = false)
    (hqueue : name ∉ world.queue.lockNames) : (start triggers world).Settled name := by
  have hnone : ∀ phase : Launch → Bool, (∀ trigger, phase (.requested trigger) = false) →
      tally (start triggers world).members name phase = 0 := by
    intro phase hp
    refine List.countP_eq_zero.2 ?_
    intro member hm
    obtain ⟨trigger, _, rfl⟩ := List.mem_map.1 hm
    simp [hp]
  refine ⟨?_, ?_, ?_, ?_, ?_⟩
  · intro member hm
    obtain ⟨trigger, ht, rfl⟩ := List.mem_map.1 hm
    exact hadmits trigger ht
  · intro member hm
    obtain ⟨trigger, ht, rfl⟩ := List.mem_map.1 hm
    exact .requested
  · exact .inl ⟨hfree, hnone _ fun _ => rfl, hnone _ fun _ => rfl⟩
  · rw [hnone Launch.isDeferred fun _ => rfl]
    exact List.count_eq_zero.2 hqueue
  · rw [hnone Launch.isLaunched fun _ => rfl]
    rfl

theorem settled_run {cluster : Cluster κ} {crew : Crew κ} {turns : List Turn} {name : String}
    {horizon : Instant} (hc : (crew.run cluster turns).Calm horizon) (h : crew.Settled name) :
    (crew.run cluster turns).Settled name := by
  let kept (crew : Crew κ) : Prop := crew.Calm horizon → crew.Settled name
  have hk : ∀ crew after, Change crew after → kept crew → kept after :=
    fun crew after change ih ha => settled_change change ha (ih (ha.before change))
  exact run_keeps hk cluster turns crew (fun _ => h) hc

/-- The launches of a name are as many as the events that asked for them. -/
theorem tally_run (cluster : Cluster κ) (triggers : List BuildEvent) (world : World κ)
    (turns : List Turn) (name : String) :
    tally ((start triggers world).run cluster turns).members name (fun _ => true) =
      triggers.countP (·.lockName == name) := by
  let kept (crew : Crew κ) : Prop :=
    tally crew.members name (fun _ => true) = triggers.countP (·.lockName == name)
  have hk : ∀ crew after, Change crew after → kept crew → kept after := by
    intro crew after change h
    cases change with
    | waited nanos => exact h
    | absent => exact h
    | moved index member next after calls hm move =>
        have hs : tally (crew.members.set index { member with launch := next }) name
            (fun _ => true) = tally crew.members name fun _ => true := tally_kept hm rfl
        exact hs.trans h
  refine run_keeps hk cluster turns _ ?_
  simp [kept, tally, start, List.countP_map, Function.comp_def]

/-- When all launches are finished, those that won have launched and those that yielded are
deferred, and every launch did one of the two. -/
theorem tallies_of_finished {members : List Member} (name : String)
    (hs : ∀ member ∈ members, member.launch.Smooth member.trigger)
    (hf : ∀ member ∈ members, member.launch.result?.isSome = true) :
    tally members name Launch.wins = tally members name Launch.isLaunched ∧
      tally members name Launch.yields = tally members name Launch.isDeferred ∧
      tally members name Launch.isLaunched + tally members name Launch.isDeferred =
        tally members name fun _ => true := by
  have hends := fun member hm => (hs member hm).finished (hf member hm)
  refine ⟨List.countP_congr ?_, List.countP_congr ?_, countP_add_of_xor ?_⟩
  · intro member hm
    obtain ⟨hl, _, hw, _⟩ | ⟨hl, _, hw, _⟩ := hends member hm
    · simp [hl, hw]
    · simp [hl, hw]
  · intro member hm
    obtain ⟨_, hd, _, hy, _⟩ | ⟨_, hd, _, hy, _⟩ := hends member hm
    · simp [hd, hy]
    · simp [hd, hy]
  · intro member hm
    obtain ⟨hl, hd, _⟩ | ⟨hl, hd, _⟩ := hends member hm
    · simp [hl, hd]
    · simp [hl, hd]

/-- Admitted launches over a store without a live lock of theirs and a queue without an entry of
theirs: if every call is answered and no lock ends before all are finished, then of the launches
of one name one has launched its build, and the others are deferred with one entry of the
queue. -/
theorem one_build (cluster : Cluster κ) (triggers : List BuildEvent) (world : World κ)
    (turns : List Turn) (name : String)
    (hadmits : ∀ trigger ∈ triggers, world.admits trigger = true)
    (hfree : ∀ trigger ∈ triggers, world.locks.isHeld trigger.lockName world.now = false ∧
      trigger.lockName ∉ world.queue.lockNames)
    (hanswered : ∀ entry ∈ ((start triggers world).run cluster turns).log,
      entry.call.answered = true)
    (hlive : ∀ entry ∈ ((start triggers world).run cluster turns).log,
      ∀ record ∈ entry.call.written?,
        ((start triggers world).run cluster turns).world.now ≤ record.expiresAt)
    (hdone : ∀ member ∈ ((start triggers world).run cluster turns).members,
      member.launch.result?.isSome = true)
    (hname : ∃ trigger ∈ triggers, trigger.lockName = name) :
    let crew := (start triggers world).run cluster turns
    let launches := triggers.countP (·.lockName == name)
    tally crew.members name Launch.isLaunched = 1 ∧
    tally crew.members name Launch.isDeferred = launches - 1 ∧
    (∀ member ∈ crew.members, member.trigger.lockName = name →
      (∃ id, member.launch.result? = some (.ok (.launched id))) ∨
        member.launch.result? = some (.ok (.deferred name))) ∧
    crew.log.countP (·.call.submits name) = 1 ∧
    (∃ index member record, crew.members[index]? = some member ∧
      member.trigger.lockName = name ∧ member.launch.isLaunched = true ∧
      Wrote crew.log index record ∧ crew.world.locks.get? name = some record) ∧
    crew.world.queue.lockNames.count name = if 2 ≤ launches then 1 else 0 := by
  intro crew launches
  obtain ⟨trigger, htrigger, hlock⟩ := hname
  obtain ⟨hheld, hqueue⟩ := hfree trigger htrigger
  rw [hlock] at hheld hqueue
  have hcalm : crew.Calm crew.world.now := ⟨hanswered, hlive, Int.le_refl _⟩
  have hsettled : crew.Settled name := settled_run hcalm (settled_start hadmits hheld hqueue)
  obtain ⟨hwins, hyields, htotal⟩ := tallies_of_finished name hsettled.smooth hdone
  have hlaunches : tally crew.members name (fun _ => true) = launches :=
    tally_run cluster triggers world turns name
  have hpos : 0 < launches := List.countP_pos_iff.2 ⟨trigger, htrigger, by simp [hlock]⟩
  -- a name whose lock is still free has no finished launch
  have htaken : crew.Taken name := by
    obtain ⟨_, hnone, hnone'⟩ | ht := hsettled.contest
    · omega
    · exact ht
  obtain ⟨hone, index, member, record, hm, hn, hw, hwrote, hget⟩ := htaken
  have hlaunched : tally crew.members name Launch.isLaunched = 1 := by omega
  have hdeferred : tally crew.members name Launch.isDeferred = launches - 1 := by omega
  refine ⟨hlaunched, hdeferred, ?_, hsettled.submitted.trans hlaunched, ?_, ?_⟩
  · rintro other ho rfl
    have hends := (hsettled.smooth other ho).finished (hdone other ho)
    obtain ⟨_, _, _, _, hr⟩ | ⟨_, _, _, _, hr⟩ := hends
    · exact .inl hr
    · exact .inr hr
  · refine ⟨index, member, record, hm, hn, ?_, hwrote, hget⟩
    have hmem : member ∈ crew.members := List.mem_of_getElem? hm
    obtain ⟨hl, _⟩ | ⟨_, _, hw', _⟩ := (hsettled.smooth member hmem).finished (hdone member hmem)
    · exact hl
    · rw [hw] at hw'
      cases hw'
  · rw [hsettled.queued, hdeferred]
    by_cases h2 : 2 ≤ launches
    · rw [if_pos h2, if_pos (by omega)]
    · rw [if_neg h2, if_neg (by omega)]

/-- Three launches of one branch and one of another, their steps interleaved. -/
theorem one_build_interleaved :
    let other : BuildEvent := { sampleEvent with ref := "dev" }
    let crew := (start [sampleEvent, other, sampleEvent, sampleEvent] (sampleWorld [])).run
      Recorder.cluster [.step 2, .step 0, .step 1, .step 2, .wait 5, .step 0, .step 3, .step 1,
        .step 0, .step 3, .step 1, .step 3, .step 2]
    tally crew.members sampleEvent.lockName Launch.isLaunched = 1 ∧
      tally crew.members sampleEvent.lockName Launch.isDeferred = 2 ∧
      crew.world.queue.lockNames.count sampleEvent.lockName = 1 := by
  intro other
  obtain ⟨hl, hd, _, _, _, hq⟩ := one_build Recorder.cluster
    [sampleEvent, other, sampleEvent, sampleEvent] (sampleWorld []) [.step 2, .step 0, .step 1,
      .step 2, .wait 5, .step 0, .step 3, .step 1, .step 0, .step 3, .step 1, .step 3, .step 2]
    sampleEvent.lockName (by decide +kernel) (by decide +kernel) (by decide +kernel)
    (by decide +kernel) (by decide +kernel) (by decide +kernel)
  exact ⟨hl, hd.trans (by decide +kernel), hq.trans (by decide +kernel)⟩

end Crew

end BuildScheduler
