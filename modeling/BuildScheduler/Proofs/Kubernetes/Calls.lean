import BuildScheduler.Kubernetes.Cluster
import BuildScheduler.Proofs.Kubernetes.Conversion
import BuildScheduler.Proofs.Retry.Schedule

/-!
# The answer that decides a call

A call to the cluster sends request after request until an answer settles it: a success, or the
refusal that says that there is nothing left to do. With the last request allowed it ends in any
case. `answers_decide` says what is sent and what the call gives, for creations and deletions
alike. What cannot be sent at all fails without a request.
-/

namespace BuildScheduler.Kubernetes

/-! ## Kinds of calls -/

/-- How a kind of calls reads answers: which body is a success, and the code of the refusal that
counts as one. -/
structure CallKind where
  accepts : String → Bool
  done : Nat

namespace CallKind

/-- A conflict says that the pod is there. -/
def creation (client : Client) : CallKind := ⟨client.readsPod, 409⟩

/-- A pod that is not found is gone. -/
def deletion (client : Client) : CallKind := ⟨client.readsDeletion, 404⟩

variable (kind : CallKind)

/-- Whether an answer is a success or counts as one. -/
def settles : Answer → Bool
  | .response status body =>
      if isRefusal status then refusalCode status body == kind.done else kind.accepts body
  | .unreachable _ => false

theorem settles_iff (answer : Answer) :
    kind.settles answer = true ↔ outcome kind.accepts answer = .ok () ∨
      outcome kind.accepts answer = .error (.refused kind.done) := by
  cases answer with
  | unreachable reason => simp [settles, outcome]
  | response status body =>
      simp only [settles, outcome]
      by_cases hs : isRefusal status = true
      · simp [hs]
      · rw [if_neg hs, if_neg hs]
        cases kind.accepts body with
        | true => simp
        | false => simp

def Judges (judge : Answer → Except Failure Unit) : Prop :=
  ∀ answer, judge answer = .ok () ↔ kind.settles answer = true

theorem judges_creation (client : Client) :
    (creation client).Judges (creationOutcome client) := by
  intro answer
  rw [settles_iff, creationOutcome, creation]
  split <;> simp_all

theorem judges_deletion (client : Client) :
    (deletion client).Judges (deletionOutcome client) := by
  intro answer
  rw [settles_iff, deletionOutcome, deletion]
  split <;> simp_all

def Settled (answers : List Delayed) (number : Nat) : Prop :=
  ∃ answer, answers[number]? = some answer ∧ kind.settles answer.answer = true

/-- The number of the request with which a call ends if time allows: the first whose answer settles
it, or else the last one allowed. -/
structure Decides (policy : RetryPolicy) (answers : List Delayed) (last : Nat) : Prop where
  allowed : last < policy.attempts
  before : ∀ number < last, ¬ kind.Settled answers number
  final : kind.Settled answers last ∨ last + 1 = policy.attempts

variable {kind} {policy : RetryPolicy} {answers : List Delayed} {last : Nat}

theorem exists_decides (kind : CallKind) (policy : RetryPolicy) (answers : List Delayed) :
    ∃ last, kind.Decides policy answers last := by
  classical
  obtain ⟨hlt, hbefore, hlast⟩ :=
    policy.decisive_spec fun number => decide (kind.Settled answers number)
  exact ⟨_, hlt, fun number hn => of_decide_eq_false (hbefore number hn),
    hlast.imp_left of_decide_eq_true⟩

/-- If any answer allowed settles a call, the deciding one does. -/
theorem Decides.settled_iff (hd : kind.Decides policy answers last) :
    kind.Settled answers last ↔ ∃ number < policy.attempts, kind.Settled answers number := by
  constructor
  · exact fun h => ⟨last, hd.allowed, h⟩
  · rintro ⟨number, hn, h⟩
    obtain hlast | hlast := hd.final
    · exact hlast
    · obtain hlt | rfl | hgt := Nat.lt_trichotomy number last
      · exact absurd h (hd.before number hlt)
      · exact h
      · omega

end CallKind

/-! ## Requests -/

def delayOf (answers : List Delayed) (number : Nat) : Nat := answers[number]?.elim 0 (·.delay)

/-- A call sends requests of one method to one path up to the deciding one, with the number `last`,
and ends as its answer says; at the limit if this comes first. -/
structure Call.Follows (call : Call) (kind : CallKind) (policy : RetryPolicy)
    (answers : List Delayed) (report : Option Answer → Error) (path : String) (method : Method)
    (last : Nat) : Prop extends kind.Decides policy answers last where
  /-- A deciding request that is answered within the limit ends the call, and no later answer is
  used. A failure tells of the last answer allowed. -/
  inTime : last < answers.length →
    policy.isLate (policy.timeOf (delayOf answers) last) = false →
    call.requests = ((List.range (last + 1)).map fun number =>
      ⟨path, method, policy.beginOf (delayOf answers) number⟩) ∧
    call.elapsed = policy.timeOf (delayOf answers) last ∧
    call.answersLeft = answers.drop (last + 1) ∧
    (call.result.toResult = .ok () ↔
      ∃ number < policy.attempts, kind.Settled answers number) ∧
    ((∀ number < policy.attempts, ¬ kind.Settled answers number) →
      ∃ answer, answers[policy.attempts - 1]? = some answer ∧
        call.result.toResult = .error (report (some answer.answer)))
  /-- What lasts longer, or is never answered, ends at the limit. -/
  late : ∀ limit, policy.timeout = some limit →
    (last < answers.length → limit < policy.timeOf (delayOf answers) last) →
    call.result.toResult = .error (.timeout retryTimedOut) ∧ call.elapsed = limit ∧
      call.requests.length ≤ last + 1

theorem toResult_ending (result : Result α) : (RetryPolicy.ending result).toResult = result := by
  cases result <;> rfl

section Requests

variable {kind : CallKind} {judge : Answer → Except Failure Unit} (hjudge : kind.Judges judge)
  {report : Option Answer → Error} {answers : List Delayed} {number : Nat}

theorem duration_attempts :
    (attempts judge report answers number).duration = answers[number]?.map (·.delay) := by
  unfold attempts
  cases answers[number]? <;> rfl

theorem duration_attempts_of_lt (h : number < answers.length) :
    (attempts judge report answers number).duration = some (delayOf answers number) := by
  rw [duration_attempts, delayOf, List.getElem?_eq_getElem h]
  rfl

theorem request_eq_of_path {settings : Settings} {text path : String}
    (hp : shownPath? text = some path) (method : Method) :
    settings.request text method judge report answers =
      { result := (settings.policy.run (attempts judge report answers)).result
        requests := (settings.policy.run (attempts judge report answers)).starts.map fun time =>
          ⟨path, method, time⟩
        elapsed := (settings.policy.run (attempts judge report answers)).elapsed
        answersLeft := answers.drop
          (settings.policy.run (attempts judge report answers)).starts.length } := by
  rw [Settings.request, hp]

include hjudge

theorem result_attempts_iff :
    (attempts judge report answers number).result = .ok () ↔ kind.Settled answers number := by
  unfold attempts CallKind.Settled
  cases answers[number]? with
  | none => simp
  | some answer =>
      have ha := hjudge answer.answer
      cases hj : judge answer.answer with
      | ok value => simpa [hj] using ha
      | error failure => simpa [hj] using ha

theorem result_attempts_of_not_settled {answer : Delayed} (ha : answers[number]? = some answer)
    (h : ¬ kind.Settled answers number) :
    (attempts judge report answers number).result = .error (report (some answer.answer)) := by
  have hno : judge answer.answer ≠ .ok () := fun hj => h ⟨answer, ha, (hjudge _).1 hj⟩
  simp only [attempts, ha]
  cases hj : judge answer.answer with
  | ok value => exact absurd hj hno
  | error failure => rfl

variable (report)

section Runs

variable {policy : RetryPolicy} {last : Nat} (hd : kind.Decides policy answers last)
include hd

theorem result_attempts_final :
    (∃ value, (attempts judge report answers last).result = .ok value) ∨
      last + 1 = policy.attempts :=
  hd.final.imp_left fun h => ⟨(), (result_attempts_iff hjudge).2 h⟩

theorem result_attempts_before : ∀ number < last, ∀ value,
    (attempts judge report answers number).result ≠ .ok value :=
  fun number hn _ h => hd.before number hn ((result_attempts_iff hjudge).1 h)

/-- Requests that are answered in time go out up to the deciding one. -/
theorem run_attempts_of_inTime (hlt : last < answers.length)
    (hl : policy.isLate (policy.timeOf (delayOf answers) last) = false) :
    let run := policy.run (attempts judge report answers)
    run.result = RetryPolicy.ending (attempts judge report answers last).result ∧
      run.elapsed = policy.timeOf (delayOf answers) last ∧
      run.starts = (List.range (last + 1)).map (policy.beginOf (delayOf answers)) := by
  intro run
  obtain ⟨hresult, helapsed, hstarts, -⟩ :=
    RetryPolicy.run_whole (attempts judge report answers) hd.allowed
      (result_attempts_before hjudge report hd) (result_attempts_final hjudge report hd)
      (fun number hn => duration_attempts_of_lt (Nat.lt_of_le_of_lt hn hlt)) hl
  exact ⟨hresult, helapsed, hstarts⟩

/-- If the deciding answer does not come in time, no more requests go out than up to it. -/
theorem run_attempts_of_late {limit : Nat} (ht : policy.timeout = some limit)
    (hl : last < answers.length → limit < policy.timeOf (delayOf answers) last) :
    let run := policy.run (attempts judge report answers)
    run.result = .timeout ∧ run.elapsed = limit ∧ run.starts.length ≤ last + 1 := by
  intro run
  obtain ⟨hresult, helapsed, hstarts⟩ :=
    RetryPolicy.run_cut (attempts judge report answers) hd.allowed
      (result_attempts_before hjudge report hd) (result_attempts_final hjudge report hd) ht
      fun total hends => by
        by_cases hlt : last < answers.length
        · cases (RetryPolicy.endsAt?_of_given fun number hn =>
            duration_attempts_of_lt (Nat.lt_of_le_of_lt hn hlt)).symm.trans hends
          exact hl hlt
        · have hnone : (attempts judge report answers last).duration = none := by
            rw [duration_attempts, List.getElem?_eq_none (Nat.le_of_not_lt hlt)]
            rfl
          cases (RetryPolicy.endsAt?_eq_none (Nat.le_refl last) hnone).symm.trans hends
  refine ⟨hresult, helapsed, ?_⟩
  rw [show run.starts = _ from hstarts]
  calc _ ≤ _ := List.length_filter_le _ _
    _ ≤ _ := List.length_filterMap_le _ _
    _ = last + 1 := List.length_range

end Runs

variable {settings : Settings} {last : Nat} (hd : kind.Decides settings.policy answers last)
  {text path : String} (hp : shownPath? text = some path) (method : Method)
include hd hp

theorem request_follows :
    (settings.request text method judge report answers).Follows kind settings.policy answers report
      path method last := by
  rw [request_eq_of_path hp]
  refine ⟨hd, ?inTime, ?late⟩
  case inTime =>
    intro hlt hl
    obtain ⟨hresult, helapsed, hstarts⟩ :=
      run_attempts_of_inTime hjudge report hd hlt hl
    refine ⟨?_, helapsed, ?_, ?_, ?_⟩
    · rw [hstarts, List.map_map]
      rfl
    · rw [hstarts, List.length_map, List.length_range]
    · rw [hresult, toResult_ending, ← hd.settled_iff]
      exact result_attempts_iff hjudge
    · intro hno
      have hlast := hd.final.resolve_left (hno last hd.allowed)
      have ha : answers[last]? = some answers[last] := List.getElem?_eq_getElem hlt
      refine ⟨answers[last], by rwa [← hlast, Nat.add_sub_cancel], ?_⟩
      rw [hresult, toResult_ending]
      exact result_attempts_of_not_settled hjudge ha (hno last hd.allowed)
  case late =>
    intro limit ht hl
    obtain ⟨hresult, helapsed, hstarts⟩ := run_attempts_of_late hjudge report hd ht hl
    rw [hresult]
    exact ⟨rfl, helapsed, by rwa [List.length_map]⟩

end Requests

/-- Any answer allowed that settles a call without a limit makes it succeed. -/
theorem Call.Follows.ok_of_settled {call : Call} {kind : CallKind} {policy : RetryPolicy}
    {answers : List Delayed} {report : Option Answer → Error} {path : String} {method : Method}
    {last number : Nat} (hf : call.Follows kind policy answers report path method last)
    (ht : policy.timeout = none) (hn : number < policy.attempts)
    (h : kind.Settled answers number) : call.result.toResult = .ok () := by
  have hlast : last ≤ number := Nat.le_of_not_lt fun hlt => hf.before number hlt h
  obtain ⟨answer, ha, -⟩ := id h
  have hlength : number < answers.length := (List.getElem?_eq_some_iff.1 ha).1
  have hl : policy.isLate (policy.timeOf (delayOf answers) last) = false :=
    RetryPolicy.isLate_eq_false_iff.2 (by simp [ht])
  obtain ⟨-, -, -, hok, -⟩ := hf.inTime (Nat.lt_of_le_of_lt hlast hlength) hl
  exact hok.2 ⟨number, hn, h⟩

theorem CallKind.settled_of_done {kind : CallKind} {answers : List Delayed}
    {number status delay : Nat} {body : String}
    (ha : answers[number]? = some ⟨.response status body, delay⟩) (hs : isRefusal status = true)
    (hc : refusalCode status body = kind.done) : kind.Settled answers number :=
  ⟨_, ha, by simp [settles, hs, hc]⟩

/-! ## Calls without requests -/

/-- A call fails without a request; a limit may come before the last attempt. -/
structure Call.Unsent (call : Call) (policy : RetryPolicy) (answers : List Delayed)
    (error : Error) : Prop where
  requests : call.requests = []
  answersLeft : call.answersLeft = answers
  failed : call.result.toResult = .error error ∨
    policy.timeout ≠ none ∧ call.result.toResult = .error (.timeout retryTimedOut)

theorem unsent_unsent (settings : Settings) (report : Option Answer → Error)
    (answers : List Delayed) :
    (settings.unsent report answers).Unsent settings.policy answers (report none) := by
  refine ⟨rfl, rfl, ?_⟩
  let results : Nat → Result Unit := fun _ => .error (report none)
  change (settings.policy.run (RetryPolicy.lasting (fun _ => 0) results)).result.toResult = _ ∨ _ ∧
    (settings.policy.run (RetryPolicy.lasting (fun _ => 0) results)).result.toResult = _
  cases hl : settings.policy.isLate
      (settings.policy.timeOf (fun _ => 0) (settings.policy.lastOf results)) with
  | false =>
      rw [RetryPolicy.run_of_inTime hl]
      exact .inl (toResult_ending (results (settings.policy.lastOf results)))
  | true =>
      obtain ⟨limit, ht, hlt⟩ := (Option.any_eq_true _ _).1 hl
      obtain ⟨hresult, -⟩ := RetryPolicy.run_of_late ht (of_decide_eq_true hlt)
      rw [hresult]
      exact .inr ⟨by simp [ht], rfl⟩

/-- A pod is refused as invalid input only. -/
theorem toPod_error {spec : PodSpec} {nameSpace : String} {error : Error}
    (h : toPod spec nameSpace = .error error) : ∃ message, error = .invalidInput message := by
  rw [toPod_eq] at h
  cases hm : spec.containers.mapM apiContainer with
  | ok containers => simp [hm, Except.map] at h
  | error other =>
      obtain ⟨before, container, after, -, -, he⟩ := mapM_error_iff.1 hm
      obtain ⟨cause, -, hcause⟩ := apiContainer_error_iff.1 he
      obtain rfl : other = error := by simpa [hm, Except.map] using h
      exact ⟨_, hcause⟩

/-! ## Creations and deletions -/

section Decided

variable {settings : Settings} {judge : Answer → Except Failure Unit}
  {report : Option Answer → Error} (answers : List Delayed) {text : String} (method : Method)

theorem request_decided {kind : CallKind} (hjudge : kind.Judges judge) {path : String}
    (hp : shownPath? text = some path) :
    let call := settings.request text method judge report answers
    (∃ last, call.Follows kind settings.policy answers report path method last) ∧
    (settings.policy.timeout = none → ∀ number < settings.policy.attempts,
      ∀ status body delay, answers[number]? = some ⟨.response status body, delay⟩ →
      isRefusal status = true → refusalCode status body = kind.done →
        call.result.toResult = .ok ()) := by
  intro call
  obtain ⟨last, hd⟩ := kind.exists_decides settings.policy answers
  have hf := request_follows hjudge report hd hp method
  exact ⟨⟨last, hf⟩, fun ht number hn status body delay ha hs hc =>
    hf.ok_of_settled ht hn (CallKind.settled_of_done ha hs hc)⟩

theorem request_unsent (hp : shownPath? text = none) :
    (settings.request text method judge report answers).Unsent settings.policy answers
      (report none) := by
  rw [Settings.request, hp]
  exact unsent_unsent settings report answers

end Decided

/-- A spec that does not convert is refused as invalid input, and nothing is sent. Otherwise a
creation or a deletion sends requests up to the first that is answered with a success or with a
conflict, or for a deletion with a pod that is not found, or else up to the last one allowed. If
this one is answered within the limit, the call ends then: it succeeds if and only if one of the
answers allowed is such an answer, and else fails with the name of the pod and the words for the
last answer. If not, it times out at the limit. A path that cannot be sent, and an empty name, fail
without a request. -/
theorem answers_decide (settings : Settings) (words : Option Answer → String)
    (answers : List Delayed) :
    (∀ spec error, toPod spec settings.nameSpace = .error error →
      (∃ message, error = .invalidInput message) ∧
      settings.createWith words spec answers =
        { result := .exhausted error, requests := [], elapsed := 0, answersLeft := answers }) ∧
    (∀ spec pod, toPod spec settings.nameSpace = .ok pod →
      let call := settings.createWith words spec answers
      let report (answer : Option Answer) := Error.podCreationFailed (spec.name ++ words answer)
      (∀ path, shownPath? (podsPath settings.nameSpace) = some path →
        (∃ last, call.Follows (.creation settings.client) settings.policy answers report path
          (.post pod) last) ∧
        (settings.policy.timeout = none → ∀ number < settings.policy.attempts,
          ∀ status body delay, answers[number]? = some ⟨.response status body, delay⟩ →
          isRefusal status = true → refusalCode status body = 409 → call.result.toResult = .ok ())) ∧
      (shownPath? (podsPath settings.nameSpace) = none →
        call.Unsent settings.policy answers (report none))) ∧
    ∀ name,
      let call := settings.deleteWith words name answers
      let report (answer : Option Answer) := Error.podDeletionFailed (name ++ words answer)
      (∀ path, name ≠ "" → shownPath? (podPath settings.nameSpace name) = some path →
        (∃ last, call.Follows (.deletion settings.client) settings.policy answers report path
          .delete last) ∧
        (settings.policy.timeout = none → ∀ number < settings.policy.attempts,
          ∀ status body delay, answers[number]? = some ⟨.response status body, delay⟩ →
          isRefusal status = true → refusalCode status body = 404 → call.result.toResult = .ok ())) ∧
      (name = "" ∨ shownPath? (podPath settings.nameSpace name) = none →
        call.Unsent settings.policy answers (report none)) := by
  refine ⟨?_, ?_, ?_⟩
  · intro spec error h
    refine ⟨toPod_error h, ?_⟩
    rw [Settings.createWith, h]
  · intro spec pod h call report
    have hcall : call = settings.request (podsPath settings.nameSpace) (.post pod)
        (creationOutcome settings.client) report answers := by
      simp only [call, Settings.createWith, h]
      rfl
    rw [hcall]
    exact ⟨fun path hp => request_decided answers _ (CallKind.judges_creation _) hp,
      fun hp => request_unsent answers _ hp⟩
  · intro name call report
    have hempty (hn : name = "") : call = settings.unsent report answers := by
      simp only [call, Settings.deleteWith, if_pos hn]
      rfl
    have hcall (hn : name ≠ "") : call = settings.request (podPath settings.nameSpace name) .delete
        (deletionOutcome settings.client) report answers := by
      simp only [call, Settings.deleteWith, if_neg hn]
      rfl
    refine ⟨fun path hn hp => ?_, fun hfails => ?_⟩
    · rw [hcall hn]
      exact request_decided answers _ (CallKind.judges_deletion _) hp
    · by_cases hn : name = ""
      · rw [hempty hn]
        exact unsent_unsent settings report answers
      · rw [hcall hn]
        exact request_unsent answers _ (hfails.resolve_left hn)

/-- A creation whose first answer is lost, then a conflict; a deletion of a pod that is gone; a
container that does not convert; and a pod without a name. -/
theorem answers_decide_after_lost_answer :
    let settings : Settings := { nameSpace := "builds", policy := { maxAttempts := 3 } }
    let words (answer : Option Answer) := if answer.isSome then ": refused" else ": not sent"
    let lost : Delayed := ⟨.unreachable "connection reset", 1000000⟩
    let created : List Delayed := [lost, ⟨.response 409 "", 1000000⟩, lost]
    let deleted : List Delayed := [lost, lost, ⟨.response 404 "", 1000000⟩]
    let spec : PodSpec := { name := "b1" }
    let refused : PodSpec :=
      { name := "b1", containers := [{ name := "d", extra := [("tty", .int 1)] }] }
    (∃ pod, toPod spec settings.nameSpace = .ok pod) ∧
    shownPath? (podsPath settings.nameSpace) = some "/api/v1/namespaces/builds/pods" ∧
    (settings.createWith words spec created).result.toResult = .ok () ∧
    shownPath? (podPath settings.nameSpace "b1") = some "/api/v1/namespaces/builds/pods/b1" ∧
    (settings.deleteWith words "b1" deleted).result.toResult = .ok () ∧
    (settings.createWith words refused created).requests = [] ∧
    (settings.deleteWith words "" deleted).requests = [] := by
  intro settings words lost created deleted spec refused
  have hpod : ∃ pod, toPod spec settings.nameSpace = .ok pod := ⟨_, rfl⟩
  have hrefused : ∃ error, toPod refused settings.nameSpace = .error error := ⟨_, rfl⟩
  have hpods : shownPath? (podsPath settings.nameSpace) =
      some "/api/v1/namespaces/builds/pods" := by
    decide +kernel
  have hpath : shownPath? (podPath settings.nameSpace "b1") =
      some "/api/v1/namespaces/builds/pods/b1" := by
    decide +kernel
  obtain ⟨hconverts, hcreate, -⟩ := answers_decide settings words created
  obtain ⟨-, -, hdelete⟩ := answers_decide settings words deleted
  obtain ⟨pod, hp⟩ := hpod
  obtain ⟨error, he⟩ := hrefused
  obtain ⟨-, hcreated⟩ := (hcreate spec pod hp).1 _ hpods
  obtain ⟨-, hdeleted⟩ := (hdelete "b1").1 _ (by decide) hpath
  refine ⟨⟨pod, hp⟩, hpods, hcreated rfl 1 (by decide) 409 "" 1000000 rfl (by decide)
    (by decide +kernel), hpath, hdeleted rfl 2 (by decide) 404 "" 1000000 rfl (by decide)
    (by decide +kernel), ?_, ((hdelete "").2 (.inl rfl)).requests⟩
  rw [(hconverts refused error he).2]

/-- Without a name a deletion fails although the server would have answered with a success. -/
theorem unnamed_pod_not_sent :
    let settings : Settings := { nameSpace := "decap", policy := { maxAttempts := 1 } }
    let body := "\x7b\"apiVersion\":\"v1\",\"kind\":\"Status\",\"status\":\"Success\"\x7d"
    let answers : List Delayed := [⟨.response 200 body, 0⟩]
    (∃ number < settings.policy.attempts,
      (CallKind.deletion settings.client).Settled answers number) ∧
    (settings.delete "" answers).requests = [] ∧
    (settings.delete "" answers).result.toResult = .error (.podDeletionFailed "") := by
  intro settings body answers
  exact ⟨⟨0, by decide, _, rfl, by decide +kernel⟩, rfl, rfl⟩

end BuildScheduler.Kubernetes
