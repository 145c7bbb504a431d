import BuildScheduler.Proofs.Concurrency.Crew
import BuildScheduler.Proofs.Launch.Exits

/-!
# The launch protocol

Which calls a launch makes, and what it answers, by the gate, the catalog and the answers of the
stores and the cluster. Nothing is assumed of the collaborators: every call may succeed or fail
with any error, whatever came before. A launch calls nothing before it has worked out when its
lock will end, so if the calendar ends before that, it makes no call at all.
-/

namespace BuildScheduler

/-- What the message of a failed creation says after its opening words. -/
def Error.creationReason : Error → String
  | .podCreationFailed reason => reason
  | error => error.message

theorem Error.message_asPodCreation (error : Error) :
    error.asPodCreation.message = "pod creation failed: " ++ error.creationReason := by
  cases error with
  | podCreationFailed reason => rfl
  | _ => rfl

namespace Collaborators

/-- What a launch answers and which calls it makes, for every answer it can get. The event that
is deferred carries the identifier minted in this launch. The reason of a failed creation is
said once, and the answer of the delete does not matter. An admitted launch whose lock would end
after the calendar panics before its first call. -/
theorem launch_transcript (parts : Collaborators σ) (event : BuildEvent) (state : σ) :
    let run := parts.transcript event state
    let id := (parts.mint state).1
    let putCall := parts.putCall event state
    run.1 = (parts.site.launch event state).1 ∧
    (parts.isOpen state = false → run = (some (.ok .queueClosed), [])) ∧
    (parts.isOpen state = true → parts.project? event.projectKey state = none →
      run = (some (.error (.projectNotFound event.projectKey)), [])) ∧
    (∀ project, parts.isOpen state = true →
      parts.project? event.projectKey state = some project →
      project.descriptor.isManaged event.ref = false →
      run = (some (.error (.refNotManaged event.projectKey event.ref)), [])) ∧
    (∀ project, parts.Admits event state project →
      ¬ parts.Fits (parts.mint state).2 → run = (none, [])) ∧
    (∀ project, parts.Admits event state project → parts.Fits (parts.mint state).2 →
      ((parts.tried event state).1 ≠ .ok true →
        let identified : BuildEvent := { event with id := some id }
        ((parts.deferral event state).1 = .ok () →
          run = (some (.ok (.deferred event.lockName)),
            [putCall, .defer identified (.ok ())])) ∧
        ∀ error, (parts.deferral event state).1 = .error error →
          run = (some (.ok (.failed id error)), [putCall, .defer identified (.error error)])) ∧
      ((parts.tried event state).1 = .ok true →
        let pod := parts.podFor event state project
        ((parts.submission event state project).1 = .ok () →
          run = (some (.ok (.launched id)), [putCall, .create pod (.ok ())])) ∧
        ∀ error, (parts.submission event state project).1 = .error error →
          run = (some (.ok (.failed id error.asPodCreation)),
            [putCall, .create pod (.error error),
              .delete event.lockName (parts.withdrawal event state project).1]) ∧
          error.asPodCreation.message = "pod creation failed: " ++ error.creationReason)) := by
  intro run id putCall
  refine ⟨(run_recorded parts _ (.requested event) state []).1, ?_, ?_, ?_, ?_, ?_⟩
  · intro ho
    simp only [run, transcript, recorded_of_closed _ [] ho]
  · intro ho hp
    simp only [run, transcript, recorded_of_unknown _ [] ho hp]
  · intro project ho hp hm
    simp only [run, transcript, recorded_of_unmanaged _ [] ho hp hm]
  · intro project ha hf
    simp only [run, transcript, recorded_of_not_fits _ [] ha hf]
  · intro project ha hf
    refine ⟨?_, ?_⟩
    · intro hw identified
      refine ⟨?_, ?_⟩
      · intro hd
        simp only [run, transcript, recorded_of_deferred _ [] ha hf hw hd]
        rfl
      · intro error hd
        simp only [run, transcript, recorded_of_undeferred _ [] ha hf hw hd]
        rfl
    · intro hw pod
      refine ⟨?_, ?_⟩
      · intro hc
        simp only [run, transcript, recorded_of_launched _ [] ha hf hw hc]
        rfl
      · intro error hc
        refine ⟨?_, error.message_asPodCreation⟩
        simp only [run, transcript, recorded_of_uncreated _ [] ha hf hw hc]
        rfl

/-- A lock of nine trillion seconds ends after the calendar: an admitted launch then makes no put,
though its project, its branch and the gate are fine. -/
theorem no_put_beyond_calendar :
    ¬ ∀ (event : BuildEvent) (world : World Recorder) (project : Project),
      let parts := World.collaborators Recorder.cluster
      parts.Admits event world project →
        ∃ later, (parts.transcript event world).2 = parts.putCall event world :: later := by
  intro h
  let parts := World.collaborators Recorder.cluster
  let world : World Recorder := { Crew.sampleWorld [] with ttl := Span.ofSeconds 9000000000000 }
  let project : Project :=
    { team := "acme", name := "widgets", descriptor := { image := "builder" } }
  have ha : parts.Admits Crew.sampleEvent world project :=
    ⟨rfl, by decide +kernel, by decide +kernel⟩
  have hf : ¬ parts.Fits (parts.mint world).2 := by decide +kernel
  have hnone : (parts.transcript Crew.sampleEvent world).2 = [] := by
    simp only [transcript, recorded_of_not_fits _ [] ha hf]
  obtain ⟨later, hput⟩ := h Crew.sampleEvent world project ha
  cases hnone.symm.trans hput

end Collaborators

end BuildScheduler
