import BuildScheduler.Kubernetes.Cluster

/-!
# Watching pods

A watch lists the pods that a selector picks, page by page, and then follows their changes. It
yields what it observes and the errors it meets. What it needs next is its state; after an error
it goes on at once, from the list or from the changes.
-/

namespace BuildScheduler.Kubernetes

/-- What a watch yields. -/
inductive WatchYield where
  | observed (pod : PodObservation)
  | failed

/-! Lists -/

structure PodList where
  pods : List PodObservation := []
  resourceVersion : String := ""
  next : String := ""

/-- The version and the continuation of a list. -/
def listMeta : Schema := .object "ListMeta" [
  Schema.opt "continue" .string, Schema.opt "remainingItemCount" .int64,
  Schema.opt "resourceVersion" .string, Schema.opt "selfLink" .string]

/-- A list of pods; null items are no items. -/
def listRecord : Json.Record PodList where
  title := "struct ObjectList"
  blank := {}
  fields := [
    ⟨"metadata", .defaulted, fun node list => do
      if Schema.isNull node then .error (node.mismatch "struct ListMeta")
      let found ← Schema.read node listMeta
      pure { list with
        resourceVersion := (text? (found.member "resourceVersion")).getD ""
        next := (text? (found.member "continue")).getD "" }⟩,
    ⟨"items", .required, fun node list => do
      let pods ← Json.Decode.option (Json.Decode.list decodePod) node
      pure { list with pods := pods.getD [] }⟩]
  unknown := .kept fun _ _ list => list

/-- The list in an answer, if there is one. -/
def listOf? : Answer → Option PodList
  | .unreachable _ => none
  | .response status body =>
      if isRefusal status then none
      else
        match Json.readText listRecord.decode body with
        | .ok list => if list.resourceVersion = "" ∧ list.next = "" then none else some list
        | .error _ => none

/-! Changes -/

/-- A change of a pod, with the version it leads to, or a mark in the stream of changes. -/
inductive Change where
  | applied (pod : PodObservation) (version : String)
  | deleted (version : String)
  | bookmark
  | refused (code : Nat)

/-- The observation of a pod and its version. -/
def versionedPod (node : Json.Node) : Except Json.ReadError (PodObservation × String) := do
  let pod ← Schema.read node Schema.pod
  pure (observe pod, (text? ((pod.member "metadata").member "resourceVersion")).getD "")

def bookmarkMeta : Json.Record Unit where
  title := "struct BookmarkMeta"
  blank := ()
  fields := [
    ⟨"resourceVersion", .required, fun node _ => (Json.Decode.string node).map fun _ => ()⟩,
    ⟨"annotations", .defaulted,
      fun node _ => (Json.Decode.entries Json.Decode.string node).map fun _ => ()⟩]

def bookmarkRecord : Json.Record Unit where
  title := "struct Bookmark"
  blank := ()
  fields := [⟨"metadata", .required, fun node _ => bookmarkMeta.decode node⟩]
  unknown := .kept fun _ _ found => found

/-- The types of changes, with what their contents read as. -/
def changeTypes : List (String × (Json.Node → Except Json.ReadError Change)) :=
  let applied (node : Json.Node) : Except Json.ReadError Change :=
    (versionedPod node).map fun (pod, version) => .applied pod version
  [("ADDED", applied),
    ("MODIFIED", applied),
    ("DELETED", fun node => (versionedPod node).map fun (_, version) => .deleted version),
    ("BOOKMARK", fun node => (bookmarkRecord.decode node).map fun _ => .bookmark),
    ("ERROR", fun node => (Status.errorRecord.decode node).map fun status => .refused status.code)]

/-- What is read of a change: the decoder that its type asks for, and its content, which may come
first. -/
structure ChangeParts where
  decoder : Option (Json.Node → Except Json.ReadError Change) := none
  pending : Json.Node := .null
  change : Option Change := none

def changeRecord : Json.Record ChangeParts where
  title := "adjacently tagged enum WatchEvent"
  blank := {}
  fields := [
    ⟨"type", .required, fun node parts => do
      let decoder ← Json.Decode.variant
        (changeTypes.map fun type => (type.1, Json.Decode.bare type.2)) node
      pure { parts with decoder := some decoder }⟩,
    ⟨"object", .required, fun node parts => do
      match parts.decoder with
      | some decoder => pure { parts with change := some (← decoder node) }
      | none => do
          discard node.toJson
          pure { parts with pending := node }⟩]

def decodeChange (node : Json.Node) : Except Json.ReadError Change := do
  let parts ← changeRecord.decode node
  match parts.change, parts.decoder with
  | some change, _ => .ok change
  | none, some decoder => decoder parts.pending
  | none, none => .error (.missingField "type")

/-- What a line of a stream of changes says: a change, an error, or nothing if it is cut short. -/
def changeOfLine (line : String) : Option (Except Unit Change) :=
  match Json.readText decodeChange line with
  | .ok change => some (.ok change)
  | .error (.fault .truncated) => none
  | .error _ => some (.error ())

/-- The lines of a body; a line feed ends a line, with a carriage return before it or not. -/
def lines (body : String) : List String :=
  let strip (line : List Char) := if line.getLast? = some '\r' then line.dropLast else line
  let rec split : List Char → List Char → List (List Char)
    | [], [] => []
    | [], line => [line.reverse]
    | '\n' :: rest, line => line.reverse :: split rest []
    | c :: rest, line => split rest (c :: line)
  (split body.toList []).map fun line => String.ofList (strip line)

/-! Running -/

/-- What a watch does next. -/
inductive WatchState where
  /-- Lists a page. -/
  | listing
  /-- Opens a stream of changes. -/
  | opening
deriving DecidableEq

/-- The yields of a stream of changes in order, and what comes after it: a version that is
missing and a code of 410 lead back to the list. -/
def followLines : List String → List WatchYield × WatchState
  | [] => ([], .opening)
  | line :: rest =>
      match changeOfLine line with
      | none => followLines rest
      | some (.error _) => ofRest .failed rest
      | some (.ok (.applied pod version)) =>
          if version = "" then ([.failed], .listing) else ofRest (.observed pod) rest
      | some (.ok (.deleted version)) =>
          if version = "" then ([.failed], .listing) else followLines rest
      | some (.ok .bookmark) => followLines rest
      | some (.ok (.refused code)) => if code = 410 then ([.failed], .listing) else ofRest .failed rest
where
  ofRest (first : WatchYield) (rest : List String) : List WatchYield × WatchState :=
    let (yields, next) := followLines rest
    (first :: yields, next)

/-- The yields of an answer, and what comes after it. -/
def follow (state : WatchState) (answer : Answer) : List WatchYield × WatchState :=
  match state, answer with
  | .listing, answer =>
      match listOf? answer with
      | none => ([.failed], .listing)
      | some list => (list.pods.map .observed, if list.next = "" then .opening else .listing)
  | .opening, .unreachable _ => ([.failed], .opening)
  | .opening, .response _ body => followLines (lines body)

/-- Follows answers until enough was yielded or no answer is left; the last request may stay
without an answer. -/
def runWatch (path selector : String) : Nat → WatchState → Nat → List Delayed →
    List WatchYield × List Request × List Delayed
  | 0, _, _, answers => ([], [], answers)
  | _, state, time, [] => ([], [⟨path, .get (state == .opening) selector, time⟩], [])
  | most, state, time, answer :: rest =>
      let request : Request := ⟨path, .get (state == .opening) selector, time⟩
      let (yields, next) := follow state answer.answer
      if most ≤ yields.length then (yields.take most, [request], rest)
      else
        let (more, requests, left) :=
          runWatch path selector (most - yields.length) next (time + answer.delay) rest
        (yields ++ more, request :: requests, left)
termination_by _ _ _ answers => answers.length

/-- Up to `most` yields of a watch, its requests and the answers left. -/
def Settings.watch (settings : Settings) (selector : String) (most : Nat) (answers : List Delayed) :
    List WatchYield × List Request × List Delayed :=
  match shownPath? (podsPath settings.nameSpace) with
  | some path => runWatch path selector most .listing 0 answers
  | none => (List.replicate most .failed, [], answers)

end BuildScheduler.Kubernetes
