import BuildScheduler.LockService
import BuildScheduler.Proofs.Config.Accepted
import BuildScheduler.Proofs.Time.Calendar

/-!
# The time to live of locks

A lock is written with the instant a time to live after the clock. The calendar ends, and spans of
more than `2 ^ 63 - 1` milliseconds count as three hours, so not every time to live that a
configuration may ask for is the one that locks get. `lockTtl_honoured_iff` says which are.
-/

namespace BuildScheduler

namespace Instant

/-! ## Ranges of years -/

theorem inCalendar_iff (i : Instant) :
    i.InCalendar ↔ -8334601228800 ≤ i.second ∧ i.second < 8210266876800 := by
  have hmin : Date.toDays ⟨minYear, 1, 1⟩ = -96465292 := by decide +kernel
  have hmax : Date.toDays ⟨maxYear, 12, 31⟩ = 95026236 := by decide +kernel
  unfold InCalendar dayInRange
  rw [hmin, hmax, Bool.and_eq_true, decide_eq_true_iff, decide_eq_true_iff]
  omega

/-- The clock readings of the years that a scheduler may run in. -/
def InService (i : Instant) : Prop := 2026 ≤ i.year ∧ i.year ≤ 9999

theorem inService_iff (i : Instant) :
    i.InService ↔ 1767225600 ≤ i.second ∧ i.second < 253402300800 := by
  have hfirst := i.year_lt_iff 2026
  have hlast := i.year_lt_iff 10000
  have hmin : Date.toDays ⟨2026, 1, 1⟩ * 86400 = 1767225600 := by decide +kernel
  have hmax : Date.toDays ⟨10000, 1, 1⟩ * 86400 = 253402300800 := by decide +kernel
  rw [hmin] at hfirst
  rw [hmax] at hlast
  unfold InService
  omega

/-! ## Sums -/

/-- Whole seconds are added to the second; a leap second becomes the second before it. -/
theorem add_seconds (i : Instant) {seconds : Nat} (h : 1 ≤ seconds) :
    (i.add (seconds * nanosPerSecond)).second = i.second + seconds ∧
      (i.add (seconds * nanosPerSecond)).nano = i.nano % nanosPerSecond := by
  have hnano := i.nano_lt
  unfold nanosPerSecond
  have hlong : ¬ (1000000000 ≤ i.nano ∧ i.nano + seconds * 1000000000 < 2000000000) := by omega
  unfold add nanosPerSecond
  rw [dif_neg hlong]
  unfold ofNanos
  constructor
  · dsimp only
    omega
  · dsimp only
    omega

end Instant

namespace LockStore

/-- A lock that is taken stands with the record that its event asks for. -/
theorem acquire_ok {store after : LockStore} {event : BuildEvent} {now : Instant} {ttl : Span}
    {record : LockRecord} (h : store.acquire event now ttl = some (.ok record, after)) :
    record = event.lockRecord now ttl ∧ after.get? event.lockName = some record := by
  unfold acquire acquireLock put at h
  by_cases hf : ttl.Fits now
  · rw [if_pos hf] at h
    dsimp only at h
    by_cases hheld : store.isHeld (event.lockRecord now ttl).name now = true
    · rw [if_pos hheld] at h
      cases h
    · rw [if_neg hheld] at h
      cases h
      refine ⟨rfl, ?_⟩
      rw [get?_write]
      exact if_pos rfl
  · rw [if_neg hf] at h
    cases h

theorem acquire_isSome_iff (store : LockStore) (event : BuildEvent) (now : Instant) (ttl : Span) :
    (store.acquire event now ttl).isSome = true ↔ ttl.Fits now := by
  unfold acquire acquireLock
  by_cases hf : ttl.Fits now
  · rw [if_pos hf]
    exact iff_of_true rfl hf
  · rw [if_neg hf]
    exact iff_of_false nofun hf

/-- An empty store lets every event have its lock. -/
theorem acquire_empty (event : BuildEvent) {now : Instant} {ttl : Span} (hf : ttl.Fits now) :
    empty.acquire event now ttl =
      some (.ok (event.lockRecord now ttl), empty.write (event.lockRecord now ttl)) := if_pos hf

/-- Only what a time to live counts as matters. -/
theorem acquire_congr (store : LockStore) (event : BuildEvent) (now : Instant) {ttl other : Span}
    (h : ttl.effectiveTtl = other.effectiveTtl) :
    store.acquire event now ttl = store.acquire event now other := by
  have hrecord : event.lockRecord now ttl = event.lockRecord now other := by
    rw [BuildEvent.lockRecord, h, BuildEvent.lockRecord]
  have hfits : ttl.Fits now ↔ other.Fits now := by rw [Span.Fits, h, Span.Fits]
  simp only [acquire, acquireLock, hrecord, hfits]

end LockStore

namespace Span

/-- A time to live is honoured at a clock reading: the lock of an event is asked for without
leaving the calendar, and if it is taken its record expires exactly the time to live later. -/
def HonouredAt (ttl : Span) (now : Instant) : Prop :=
  ∀ (store : LockStore) (event : BuildEvent), ∃ result after,
    store.acquire event now ttl = some (result, after) ∧
      ∀ record, result = .ok record →
        after.get? event.lockName = some record ∧ record.expiresAt = now.add ttl.nanos

/-- It is honoured if it is taken as it is and the sum lies in the calendar. -/
theorem honouredAt_iff {ttl : Span} {now : Instant} :
    ttl.HonouredAt now ↔
      ttl.Fits now ∧ now.add ttl.effectiveTtl.nanos = now.add ttl.nanos := by
  constructor
  · intro h
    obtain ⟨result, after, ha, hrecord⟩ := h .empty default
    have hf := (LockStore.acquire_isSome_iff _ _ _ _).1 (Option.isSome_of_eq_some ha)
    rw [LockStore.acquire_empty default hf] at ha
    cases ha
    exact ⟨hf, (hrecord _ rfl).2⟩
  · rintro ⟨hf, heq⟩ store event
    obtain ⟨⟨result, after⟩, ha⟩ :=
      Option.isSome_iff_exists.1 ((store.acquire_isSome_iff event now ttl).2 hf)
    refine ⟨result, after, ha, fun record hr => ?_⟩
    rw [hr] at ha
    obtain ⟨hasked, hstands⟩ := LockStore.acquire_ok ha
    exact ⟨hstands, by rw [hasked, ← heq]; rfl⟩

end Span

/-! ## Configured times to live -/

namespace Config

section Accepted

variable {text : String} {config : Config} (h : ofText text = .ok config)

include h

/-- A configured time to live is a positive number of whole seconds. -/
theorem lockTtl_seconds :
    1 ≤ config.lockTtl.seconds ∧
      config.lockTtl.nanos = config.lockTtl.seconds * nanosPerSecond := by
  obtain ⟨document, -, hdocument⟩ := ofText_ok_iff.1 h
  obtain ⟨seconds, hone, -, hnanos⟩ :=
    (sound_of_ofDocument hdocument (keyed_of_ofText h)).lockTtl
  have hseconds : config.lockTtl.seconds = seconds := by
    unfold Span.seconds
    rw [hnanos]
    exact Nat.mul_div_cancel _ (by decide)
  rw [hseconds]
  exact ⟨hone, hnanos⟩

/-- It is taken as it is up to `2 ^ 63 - 1` milliseconds, and counts as three hours beyond. -/
theorem effectiveTtl_eq :
    config.lockTtl.effectiveTtl =
      if config.lockTtl.seconds ≤ 9223372036854775 then config.lockTtl else defaultLockTtl := by
  obtain ⟨-, hnanos⟩ := lockTtl_seconds h
  have hlongest : config.lockTtl.nanos ≤ Span.longestTtl ↔
      config.lockTtl.seconds ≤ 9223372036854775 := by
    rw [hnanos]
    unfold Span.longestTtl nanosPerSecond nanosPerMilli
    omega
  unfold Span.effectiveTtl
  by_cases hle : config.lockTtl.seconds ≤ 9223372036854775
  · rw [if_pos hle, if_pos (hlongest.2 hle)]
  · rw [if_neg hle, if_neg (hlongest.not.2 hle)]

/-- The expiry of a lock that is taken, in seconds and nanoseconds. -/
theorem expiry_eq (now : Instant) :
    (now.add config.lockTtl.effectiveTtl.nanos).second = now.second +
        (if config.lockTtl.seconds ≤ 9223372036854775 then config.lockTtl.seconds
          else 10800 : Nat) ∧
      (now.add config.lockTtl.effectiveTtl.nanos).nano = now.nano % nanosPerSecond := by
  obtain ⟨hone, hnanos⟩ := lockTtl_seconds h
  rw [effectiveTtl_eq h]
  by_cases hle : config.lockTtl.seconds ≤ 9223372036854775
  · rw [if_pos hle, if_pos hle, hnanos]
    exact now.add_seconds hone
  · rw [if_neg hle, if_neg hle]
    exact now.add_seconds (by decide)

theorem honouredAt_iff_second {now : Instant} (hn : now.InService) :
    config.lockTtl.HonouredAt now ↔ now.second + config.lockTtl.seconds < 8210266876800 := by
  obtain ⟨hone, hnanos⟩ := lockTtl_seconds h
  obtain ⟨hfirst, hlast⟩ := now.inService_iff.1 hn
  obtain ⟨hsecond, -⟩ := expiry_eq h now
  rw [Span.honouredAt_iff, Span.Fits, Instant.inCalendar_iff]
  by_cases hle : config.lockTtl.seconds ≤ 9223372036854775
  · have hsame : config.lockTtl.effectiveTtl = config.lockTtl :=
      (effectiveTtl_eq h).trans (if_pos hle)
    rw [if_pos hle] at hsecond
    rw [hsecond, hsame, and_iff_left rfl]
    omega
  · -- three hours are not what was asked for, and what was asked for is beyond the calendar
    rw [if_neg hle] at hsecond
    have hasked : (now.add config.lockTtl.nanos).second = now.second + config.lockTtl.seconds := by
      rw [hnanos]
      exact (now.add_seconds hone).1
    constructor
    · intro hboth
      have heq := congrArg Instant.second hboth.2
      omega
    · intro hlt
      omega

/-- Two locks taken at one time: the one with the longer configured time to live expires first
just if that time to live is too long to be taken as it is and the other one is not, and is more
than three hours. -/
theorem expiry_lt_iff {other : String} {longer : Config} (ho : ofText other = .ok longer)
    (hle : config.lockTtl.seconds ≤ longer.lockTtl.seconds) (now : Instant) :
    now.add longer.lockTtl.effectiveTtl.nanos < now.add config.lockTtl.effectiveTtl.nanos ↔
      10800 < config.lockTtl.seconds ∧ config.lockTtl.seconds ≤ 9223372036854775 ∧
        9223372036854775 < longer.lockTtl.seconds := by
  obtain ⟨hsecond, hnano⟩ := expiry_eq h now
  obtain ⟨hsecond', hnano'⟩ := expiry_eq ho now
  rw [Instant.lt_iff]
  unfold Instant.key
  rw [hsecond, hnano, hsecond', hnano']
  by_cases hshort : config.lockTtl.seconds ≤ 9223372036854775
  · rw [if_pos hshort]
    by_cases hlong : longer.lockTtl.seconds ≤ 9223372036854775
    · rw [if_pos hlong]
      omega
    · rw [if_neg hlong]
      omega
  · have hlong : ¬ longer.lockTtl.seconds ≤ 9223372036854775 := by omega
    rw [if_neg hshort, if_neg hlong]
    omega

/-- Which configured times to live locks get, with clocks of the years 2026 to 9999.

A time to live is honoured at every such clock reading just if it has no more than 7956864576000
seconds. At one reading it is honoured just if the sum lies in the calendar. If it is not, then up
to `2 ^ 63 - 1` milliseconds the sum overflows and no lock can be asked for, and from there on locks
last three hours, which is always possible. A longer time to live can so give an earlier expiry, and
only so. -/
theorem lockTtl_honoured_iff :
    ((∀ now : Instant, now.InService → config.lockTtl.HonouredAt now) ↔
      config.lockTtl.seconds ≤ 7956864576000) ∧
    (∀ now : Instant, now.InService →
      (config.lockTtl.HonouredAt now ↔ now.second + config.lockTtl.seconds < 8210266876800) ∧
      (¬ config.lockTtl.HonouredAt now → defaultLockTtl.HonouredAt now ∧ ∀ store event,
        LockStore.acquire store event now config.lockTtl =
          if config.lockTtl.seconds ≤ 9223372036854775 then none
          else store.acquire event now defaultLockTtl)) ∧
    ∀ (other : String) (longer : Config), ofText other = .ok longer →
      config.lockTtl.seconds ≤ longer.lockTtl.seconds →
      ∀ (now : Instant) (event : BuildEvent),
        (event.lockRecord now longer.lockTtl).expiresAt <
            (event.lockRecord now config.lockTtl).expiresAt ↔
          10800 < config.lockTtl.seconds ∧ config.lockTtl.seconds ≤ 9223372036854775 ∧
            9223372036854775 < longer.lockTtl.seconds := by
  refine ⟨⟨fun hall => ?_, fun hle now hn => ?_⟩, fun now hn => ⟨honouredAt_iff_second h hn, ?_⟩,
    fun other longer ho hle now event => expiry_lt_iff h ho hle now⟩
  · -- the last second of the year 9999 is the reading that leaves least room
    let last : Instant := ⟨253402300799, 0, by decide⟩
    have hn : last.InService := last.inService_iff.2 (by decide)
    have hlast := (honouredAt_iff_second h hn).1 (hall last hn)
    have hsecond : last.second = 253402300799 := rfl
    omega
  · have hlast := (now.inService_iff.1 hn).2
    exact (honouredAt_iff_second h hn).2 (by omega)
  · intro hnot
    rw [honouredAt_iff_second h hn] at hnot
    obtain ⟨hsecond, -⟩ := expiry_eq h now
    obtain ⟨hfirst, hlast⟩ := now.inService_iff.1 hn
    have hsame : defaultLockTtl.effectiveTtl = defaultLockTtl := by decide
    have hhours : defaultLockTtl.Fits now := by
      have hsum : (now.add defaultLockTtl.nanos).second = now.second + (10800 : Nat) :=
        (now.add_seconds (by decide)).1
      rw [Span.Fits, Instant.inCalendar_iff, hsame]
      omega
    refine ⟨Span.honouredAt_iff.2 ⟨hhours, by rw [hsame]⟩, fun store event => ?_⟩
    by_cases hle : config.lockTtl.seconds ≤ 9223372036854775
    · rw [if_pos hle] at hsecond ⊢
      have hout : ¬ config.lockTtl.Fits now := by
        rw [Span.Fits, Instant.inCalendar_iff]
        omega
      exact Option.not_isSome_iff_eq_none.1 (mt (store.acquire_isSome_iff event now _).1 hout)
    · rw [if_neg hle]
      refine store.acquire_congr event now ?_
      rw [effectiveTtl_eq h, if_neg hle, hsame]

end Accepted

/-- A time to live just beyond `2 ^ 63 - 1` milliseconds is accepted and honoured by no clock. -/
theorem lockTtl_of_too_many_seconds :
    ∃ config, ofText "lock-ttl-secs 9223372036854776" = .ok config ∧
      config.lockTtl.seconds = 9223372036854776 ∧
      ∀ now : Instant, now.InService → ¬ config.lockTtl.HonouredAt now := by
  obtain ⟨config, h, hcheck⟩ := exists_ok_of_any (ofText "lock-ttl-secs 9223372036854776")
    (·.lockTtl.seconds == 9223372036854776) (by decide +kernel)
  have hseconds : config.lockTtl.seconds = 9223372036854776 := eq_of_beq hcheck
  refine ⟨config, h, hseconds, fun now hn hhonoured => ?_⟩
  obtain ⟨-, hreadings, -⟩ := lockTtl_honoured_iff h
  have hsecond := (hreadings now hn).1.1 hhonoured
  have hfirst := (now.inService_iff.1 hn).1
  omega

end Config

end BuildScheduler
