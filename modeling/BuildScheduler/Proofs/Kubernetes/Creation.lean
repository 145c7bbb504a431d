import BuildScheduler.Kubernetes.Cluster
import BuildScheduler.Proofs.Concurrency.Crew
import BuildScheduler.Proofs.Locks.Answers
import BuildScheduler.Proofs.Resubmission.Launches
import BuildScheduler.Proofs.Retry.Success

/-!
# Launches over the Kubernetes cluster

A creation succeeds if and only if one of its requests is confirmed: answered in time, and either
with the pod or with the conflict that an earlier request left. A launch keeps its lock in this case
only. So it gives the lock back although its pod exists, when the server accepted a request but
answered too late or with a body that is no pod; `lock_kept_iff_confirmed` says what follows.
-/

namespace BuildScheduler.Kubernetes

/-! ## Answers -/

def Answer.accepts : Answer → Bool
  | .response status _ => 200 ≤ status && status < 300
  | .unreachable _ => false

/-- An answer says that there is a pod, created now or by a request before. -/
def Answer.Confirms (client : Client) : Answer → Prop
  | .response status body =>
      if isRefusal status then refusalCode status body = 409 else client.readsPod body = true
  | .unreachable _ => False

def Answer.showsPod (client : Client) : Answer → Bool
  | .response _ body => client.readsPod body
  | .unreachable _ => false

variable {client : Client}

theorem Answer.confirms_of_accepts {answer : Answer} (ha : answer.accepts = true)
    (hp : answer.showsPod client = true) : answer.Confirms client := by
  cases answer with
  | unreachable reason => cases ha
  | response status body =>
      obtain ⟨-, hs⟩ := Bool.and_eq_true_iff.1 ha
      have hno : ¬ isRefusal status = true := by
        have hlt := of_decide_eq_true hs
        simp only [isRefusal, Bool.and_eq_true, decide_eq_true_eq]
        omega
      rw [Confirms, if_neg hno]
      exact hp

theorem creationOutcome_eq_ok_iff (answer : Answer) :
    creationOutcome client answer = .ok () ↔ answer.Confirms client := by
  cases answer with
  | unreachable reason => exact iff_of_false nofun id
  | response status body =>
      simp only [Answer.Confirms, creationOutcome, outcome]
      by_cases hs : isRefusal status = true
      · rw [if_pos hs, if_pos hs]
        by_cases hc : refusalCode status body = 409
        · simp [hc]
        · simp [hc]
      · rw [if_neg hs, if_neg hs]
        cases client.readsPod body with
        | true => simp
        | false => simp

/-! ## Creations -/

namespace Call

variable (call : Call) (answers : List Delayed)

def Answered (request : Request) (answer : Delayed) : Prop :=
  ∃ place : Nat, call.requests[place]? = some request ∧ answers[place]? = some answer

/-- A request of the call was confirmed within the limit. -/
def Confirmed (settings : Settings) : Prop :=
  ∃ request answer, call.Answered answers request answer ∧
    answer.answer.Confirms settings.client ∧
    settings.policy.isLate (request.time + answer.delay) = false

end Call

section Requests

variable (settings : Settings) (answers : List Delayed)

theorem unsent_not_ok (report : Option Answer → Error) :
    (settings.unsent report answers).result ≠ .ok () := by
  intro h
  obtain ⟨place, start, -, duration, -, hr, -⟩ := (RetryPolicy.run_ok_iff _ _ _).1 h
  cases hr

theorem yields_attempts_iff {policy : RetryPolicy} {judge : Answer → Except Failure Unit}
    {report : Option Answer → Error} {number time : Nat} :
    policy.Yields (attempts judge report answers number) time () ↔
      ∃ answer, answers[number]? = some answer ∧ judge answer.answer = .ok () ∧
        policy.isLate (time + answer.delay) = false := by
  unfold RetryPolicy.Yields attempts
  cases answers[number]? with
  | none => simp
  | some answer =>
      cases hj : judge answer.answer with
      | ok value => simp [hj]
      | error failure => simp [hj]

theorem request_ok_iff (path : String) (method : Method) (judge : Answer → Except Failure Unit)
    (report : Option Answer → Error) :
    (settings.request path method judge report answers).result = .ok () ↔
      ∃ request answer,
        (settings.request path method judge report answers).Answered answers request answer ∧
          judge answer.answer = .ok () ∧
          settings.policy.isLate (request.time + answer.delay) = false := by
  unfold Settings.request Call.Answered
  cases shownPath? path with
  | none =>
      refine iff_of_false (unsent_not_ok settings answers report) ?_
      rintro ⟨request, answer, ⟨place, hr, -⟩, -⟩
      cases hr
  | some path =>
      refine (RetryPolicy.run_ok_iff _ _ _).trans ?_
      constructor
      · rintro ⟨place, start, hs, hy⟩
        rw [Nat.zero_add, yields_attempts_iff] at hy
        obtain ⟨answer, ha, hj, hl⟩ := hy
        refine ⟨⟨path, method, start⟩, answer, ⟨place, ?_, ha⟩, hj, hl⟩
        rw [List.getElem?_map, hs]
        rfl
      · rintro ⟨request, answer, ⟨place, hr, ha⟩, hj, hl⟩
        rw [List.getElem?_map, Option.map_eq_some_iff] at hr
        obtain ⟨start, hs, rfl⟩ := hr
        refine ⟨place, start, hs, ?_⟩
        rw [Nat.zero_add, yields_attempts_iff]
        exact ⟨answer, ha, hj, hl⟩

/-- A creation succeeds if and only if one of its requests is confirmed. -/
theorem create_ok_iff (spec : PodSpec) :
    (settings.create spec answers).result = .ok () ↔
      (settings.create spec answers).Confirmed answers settings := by
  unfold Settings.create Settings.createWith Call.Confirmed
  cases toPod spec settings.nameSpace with
  | error error =>
      refine iff_of_false nofun ?_
      rintro ⟨request, answer, ⟨place, hr, -⟩, -⟩
      cases hr
  | ok pod =>
      refine (request_ok_iff settings answers _ _ _ _).trans ?_
      simp only [creationOutcome_eq_ok_iff]

/-- There is a limit, or an answer to every request. -/
def Settings.Ends : Prop :=
  settings.policy.timeout = none → settings.policy.attempts ≤ answers.length

theorem unsent_ne_pending (report : Option Answer → Error) :
    (settings.unsent report answers).result ≠ .pending :=
  RetryPolicy.run_ne_pending _ _ fun _ _ _ => nofun

theorem create_ne_pending (h : settings.Ends answers) (spec : PodSpec) :
    (settings.create spec answers).result ≠ .pending := by
  unfold Settings.create Settings.createWith Settings.request
  cases toPod spec settings.nameSpace with
  | error error => exact nofun
  | ok pod =>
      cases shownPath? (podsPath settings.nameSpace) with
      | none => exact unsent_ne_pending settings answers _
      | some path =>
          refine RetryPolicy.run_ne_pending _ _ fun ht number hn => ?_
          have hlt : number < answers.length := Nat.lt_of_lt_of_le hn (h ht)
          simp [attempts, List.getElem?_eq_getElem hlt]

end Requests

/-! ## Launches -/

section Launches

variable (settings : Settings) (event : BuildEvent) (project : Project) (world : World Server)

def creation : Call := settings.create (world.pod event project) world.cluster.answers

theorem submission_ok_iff :
    (world.submission event project (cluster settings)).1 = .ok () ↔
      (creation settings event project world).Confirmed world.cluster.answers settings := by
  have hs : (world.submission event project (cluster settings)).1 =
      (creation settings event project world).result.toResult := rfl
  rw [hs, creation, ← create_ok_iff]
  cases (settings.create (world.pod event project) world.cluster.answers).result with
  | ok value => exact iff_of_true rfl rfl
  | _ => exact iff_of_false nofun nofun

variable {settings event project world}

theorem releases_iff (h : world.Answering) (ha : world.admits event = true)
    (hp : world.catalog.find? event.projectKey = some project) (hf : world.ttl.Fits world.now)
    (hh : world.locks.isHeld event.lockName world.now = false) :
    (LaunchAt.mk event world).Releases (cluster settings) ↔
      (world.submission event project (cluster settings)).1 ≠ .ok () := by
  have hc := (LaunchAt.mk event world).course (cluster settings) h
  unfold LaunchAt.Releases
  obtain ⟨hok, -, -, hcalls⟩ | ⟨error, herror, -, -, hcalls⟩ := hc.of_free ha hp hf hh
  · refine iff_of_false ?_ fun hne => hne hok
    rintro ⟨answer, hm⟩
    rw [hcalls] at hm
    simp [World.putCall] at hm
  · rw [hcalls, herror]
    exact iff_of_true ⟨.ok (), by simp⟩ (by simp)

/-- While a record of a name is live no launch of the name asks for a pod. -/
theorem not_submits_of_live {launch : LaunchAt Server} (h : launch.world.Answering)
    {record : LockRecord} (hg : launch.world.locks.get? launch.event.lockName = some record)
    (hl : launch.world.now ≤ record.expiresAt) : ¬ launch.Submits (cluster settings) := by
  intro hs
  have hfree := ((launch.course (cluster settings) h).submits_iff.1 hs).2.2
  exact Instant.not_lt.2 hl (LockStore.isHeld_eq_false_iff.1 hfree record hg)

theorem submits_of_none {launch : LaunchAt Server} (h : launch.world.Answering)
    (hg : launch.world.locks.get? launch.event.lockName = none)
    (ha : launch.world.admits launch.event = true)
    (hf : launch.world.ttl.Fits launch.world.now) : launch.Submits (cluster settings) := by
  refine (launch.course (cluster settings) h).submits_iff.2 ⟨ha, hf, ?_⟩
  rw [LockStore.isHeld, hg]
  rfl

end Launches

/-- Over the Kubernetes cluster a launch that took its lock gives it back if and only if no request
of its creation is confirmed; a request that the server accepts is if its answer comes in time and
shows the pod. If one is confirmed, the launch ends as launched, and while the record it wrote is
there and has not expired no launch of the name asks for a second pod. If none is, the launch
fails, whatever the server accepted, and the next admitted launch of the name asks for another pod
at once, if the calendar has the end of its lock. Left out are creations that never end, with no
limit and a request never answered. -/
theorem lock_kept_iff_confirmed (settings : Settings) (event : BuildEvent) (project : Project)
    (world : World Server) (h : world.Answering) (ha : world.admits event = true)
    (hp : world.catalog.find? event.projectKey = some project) (hf : world.ttl.Fits world.now)
    (hh : world.locks.isHeld event.lockName world.now = false)
    (he : settings.Ends world.cluster.answers) :
    let launch : LaunchAt Server := ⟨event, world⟩
    let after := launch.after (cluster settings)
    let call := creation settings event project world
    let confirmed := call.Confirmed world.cluster.answers settings
    (launch.Releases (cluster settings) ↔ ¬ confirmed) ∧
    (∀ request answer, call.Answered world.cluster.answers request answer →
      answer.answer.accepts = true → answer.answer.showsPod settings.client = true →
      settings.policy.isLate (request.time + answer.delay) = false → confirmed) ∧
    (confirmed → launch.isLaunched (cluster settings) = true ∧
      after.locks.get? event.lockName = some (world.lockRecord event) ∧
      ∀ later : LaunchAt Server, later.world.Answering →
        later.event.lockName = event.lockName →
        later.world.locks.get? event.lockName = some (world.lockRecord event) →
        later.world.now ≤ (world.lockRecord event).expiresAt →
        ¬ later.Submits (cluster settings)) ∧
    (¬ confirmed → launch.isLaunched (cluster settings) = false ∧
      (call.result = .timeout ∨ ∃ error, call.result = .exhausted error) ∧
      after.locks.get? event.lockName = none ∧
      ∀ next : LaunchAt Server, next.world = after → next.event.lockName = event.lockName →
        after.admits next.event = true → after.ttl.Fits after.now →
          next.Submits (cluster settings)) := by
  intro launch after call confirmed
  have hc := launch.course (cluster settings) h
  have hconfirmed := submission_ok_iff settings event project world
  refine ⟨(releases_iff h ha hp hf hh).trans (not_congr hconfirmed), ?_, ?_, ?_⟩
  · intro request answer hr haccepts hshows hl
    exact ⟨request, answer, hr, Answer.confirms_of_accepts haccepts hshows, hl⟩
  · intro hy
    obtain ⟨-, hr, hafter, -⟩ | ⟨error, herror, -⟩ := hc.of_free ha hp hf hh
    · refine ⟨?_, ?_, ?_⟩
      · rw [LaunchAt.isLaunched, hr]
        rfl
      · rw [show after = _ from hafter]
        exact (LockStore.get?_write _ _ _).trans (if_pos rfl)
      · intro later hl hn hg ht
        exact not_submits_of_live hl (hn ▸ hg) ht
    · cases herror.symm.trans (hconfirmed.2 hy)
  · intro hno
    obtain ⟨hok, -⟩ | ⟨error, -, hr, hafter, -⟩ := hc.of_free ha hp hf hh
    · exact absurd (hconfirmed.1 hok) hno
    · have hnone : after.locks.get? event.lockName = none := by
        rw [show after = _ from hafter]
        exact (LockStore.get?_delete _ _ _).trans (if_pos rfl)
      refine ⟨?_, ?_, hnone, ?_⟩
      · rw [LaunchAt.isLaunched, hr]
        rfl
      · have hends := create_ne_pending settings world.cluster.answers he (world.pod event project)
        have hnot := mt (create_ok_iff settings world.cluster.answers _).1 hno
        change call.result ≠ .pending at hends
        change call.result ≠ .ok () at hnot
        cases hres : call.result with
        | ok value => exact absurd hres hnot
        | exhausted error => exact .inr ⟨error, rfl⟩
        | timeout => exact .inl rfl
        | pending => exact absurd hres hends
      · rintro ⟨other, _⟩ rfl hn hadmits hfits
        exact submits_of_none (hc.answering h) (hn ▸ hnone) hadmits hfits

/-- The server creates a pod and answers with it after the limit of 50 milliseconds: the lock is
given back, and the next launch of the name asks for a second pod. -/
theorem lock_given_back_after_late_answer :
    let settings : Settings :=
      { nameSpace := "builds", policy := { timeout := some 50000000, maxAttempts := 1 } }
    let body := "\x7b\"apiVersion\":\"v1\",\"kind\":\"Pod\",\"metadata\":\x7b\x7d\x7d"
    let late : Delayed := ⟨.response 201 body, 80000000⟩
    let world : World Server :=
      { Crew.sampleWorld [] with cluster := { answers := [late, late] } }
    let project : Project :=
      { team := "acme", name := "widgets", descriptor := { image := "builder" } }
    let launch : LaunchAt Server := ⟨Crew.sampleEvent, world⟩
    let next : LaunchAt Server := ⟨Crew.sampleEvent, launch.after (cluster settings)⟩
    world.Answering ∧ world.admits Crew.sampleEvent = true ∧
    world.catalog.find? Crew.sampleEvent.projectKey = some project ∧
    world.ttl.Fits world.now ∧ world.locks.isHeld Crew.sampleEvent.lockName world.now = false ∧
    settings.Ends world.cluster.answers ∧
    late.answer.accepts = true ∧ late.answer.showsPod settings.client = true ∧
    (∃ request, (creation settings Crew.sampleEvent project world).Answered
      world.cluster.answers request late) ∧
    launch.Releases (cluster settings) ∧ next.Submits (cluster settings) := by
  intro settings body late world project launch next
  have h : world.Answering := ⟨rfl, rfl⟩
  have ha : world.admits Crew.sampleEvent = true := by decide +kernel
  have hp : world.catalog.find? Crew.sampleEvent.projectKey = some project := by decide +kernel
  have hf : world.ttl.Fits world.now := by decide +kernel
  have hh : world.locks.isHeld Crew.sampleEvent.lockName world.now = false := by decide +kernel
  have he : settings.Ends world.cluster.answers := nofun
  obtain ⟨hreleases, -, -, hlost⟩ :=
    lock_kept_iff_confirmed settings Crew.sampleEvent project world h ha hp hf hh he
  have htimes : (creation settings Crew.sampleEvent project world).requests.map Request.time =
      [0] := by decide +kernel
  obtain ⟨request, hrequests, ht⟩ := List.map_eq_singleton_iff.1 htimes
  have hno : ¬ (creation settings Crew.sampleEvent project world).Confirmed world.cluster.answers
      settings := by
    rintro ⟨other, answer, ⟨place, hr, hanswer⟩, -, hl⟩
    rw [hrequests] at hr
    cases place with
    | succ place => cases hr
    | zero =>
        cases hr
        cases hanswer
        rw [ht] at hl
        cases hl
  obtain ⟨-, -, hnone, hnext⟩ := hlost hno
  have hadmits : next.world.admits Crew.sampleEvent = true :=
    ((launch.course (cluster settings) h).admits_eq _).trans ha
  have hagain : next.world.ttl.Fits next.world.now := by decide +kernel
  refine ⟨h, ha, hp, hf, hh, he, by decide +kernel, by decide +kernel, ?_, hreleases.2 hno,
    hnext next rfl rfl hadmits hagain⟩
  exact ⟨request, 0, by rw [hrequests]; rfl, rfl⟩

end BuildScheduler.Kubernetes
