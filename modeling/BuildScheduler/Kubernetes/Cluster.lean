import BuildScheduler.Cluster
import BuildScheduler.Kubernetes.Api
import BuildScheduler.Retry

/-!
# The Kubernetes cluster

A creation or a deletion is an attempt under a retry policy, one request each time. Requests
are answered in turn from a script of answers; when it is used up, an answer never comes. What
cannot be sent fails without a request. A failure is reported with the name of the pod and the
client's words for it, which depend on the answer.
-/

namespace BuildScheduler.Kubernetes

/-- Where and how the cluster is reached. -/
structure Settings where
  nameSpace : String
  policy : RetryPolicy
  client : Client := .bySchemas

/-- What a call did: its result, its requests, how long it took and the answers left. -/
structure Call where
  result : RetryResult Error Unit
  requests : List Request := []
  elapsed : Nat := 0
  answersLeft : List Delayed := []

/-- The attempts that a script of answers makes; `report` gives the error of one that failed, by
its answer if there was one. -/
def attempts (judge : Answer → Except Failure Unit) (report : Option Answer → Error)
    (answers : List Delayed) (number : Nat) : Attempt Error Unit :=
  match answers[number]? with
  | none => { duration := none, result := .error (report none) }
  | some answer =>
      { duration := some answer.delay
        result := match judge answer.answer with
          | .ok value => .ok value
          | .error _ => .error (report (some answer.answer)) }

/-- Attempts that fail before anything is sent. -/
def Settings.unsent (settings : Settings) (report : Option Answer → Error)
    (answers : List Delayed) : Call :=
  let run : RetryRun Error Unit :=
    settings.policy.run fun _ => { duration := some 0, result := .error (report none) }
  { result := run.result, elapsed := run.elapsed, answersLeft := answers }

/-- Runs requests of one method to one path. -/
def Settings.request (settings : Settings) (path : String) (method : Method)
    (judge : Answer → Except Failure Unit) (report : Option Answer → Error)
    (answers : List Delayed) : Call :=
  match shownPath? path with
  | none => settings.unsent report answers
  | some path =>
      let run := settings.policy.run (attempts judge report answers)
      { result := run.result
        requests := run.starts.map fun time => ⟨path, method, time⟩
        elapsed := run.elapsed
        answersLeft := answers.drop run.starts.length }

/-- Creates a pod, with `words` for what went wrong. A spec that the API could not take is refused
before any request. -/
def Settings.createWith (settings : Settings) (words : Option Answer → String) (spec : PodSpec)
    (answers : List Delayed) : Call :=
  match toPod spec settings.nameSpace with
  | .error error => { result := .exhausted error, answersLeft := answers }
  | .ok pod =>
      settings.request (podsPath settings.nameSpace) (.post pod)
        (creationOutcome settings.client)
        (fun answer => .podCreationFailed (spec.name ++ words answer)) answers

/-- Deletes a pod, with `words` for what went wrong. An empty name cannot be sent. -/
def Settings.deleteWith (settings : Settings) (words : Option Answer → String) (name : String)
    (answers : List Delayed) : Call :=
  let report (answer : Option Answer) : Error := .podDeletionFailed (name ++ words answer)
  if name = "" then settings.unsent report answers
  else
    settings.request (podPath settings.nameSpace name) .delete
      (deletionOutcome settings.client) report answers

/-- Creates a pod. Of a failure only the name of the pod is told. -/
def Settings.create (settings : Settings) (spec : PodSpec) (answers : List Delayed) : Call :=
  settings.createWith (fun _ => "") spec answers

/-- Deletes a pod. Of a failure only its name is told. -/
def Settings.delete (settings : Settings) (name : String) (answers : List Delayed) : Call :=
  settings.deleteWith (fun _ => "") name answers

/-- The state of the cluster in a world: the answers to come, and the requests made so far. -/
structure Server where
  answers : List Delayed
  requests : List Request := []

def Server.answered (server : Server) (call : Call) : Reply × Server :=
  ({ result := call.result.toResult, elapsed := call.elapsed },
    { answers := call.answersLeft, requests := server.requests ++ call.requests })

def clusterName : String := "kubernetes"

/-- The cluster as launches use it. -/
def cluster (settings : Settings) : BuildScheduler.Cluster Server where
  name := clusterName
  create _ spec server := server.answered (settings.create spec server.answers)
  delete _ name server := server.answered (settings.delete name server.answers)

end BuildScheduler.Kubernetes
