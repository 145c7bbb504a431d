import BuildScheduler.Kubernetes.Pod

/-!
# Requests to the API and their answers

A request has a method, a path and, by method, a body or a query. An answer is a response after
a delay, or a failure of the transport. A status from 400 to 599 is a refusal and counts as the
code that its body states, if the body states one. Any other response is a success if the client
can read its body. Which bodies these are is a parameter, since it takes the types of the whole
API to say it; the program goes by the schemas of this library, which leave out some members of
pods.
-/

namespace BuildScheduler.Kubernetes

inductive Method where
  /-- Creates an object from a body. -/
  | post (body : Json)
  | delete
  /-- Lists objects by a selector, or watches them. -/
  | get (watch : Bool) (selector : String)

structure Request where
  path : String
  method : Method
  /-- Nanoseconds since the start of the call. -/
  time : Nat

/-- What the API does with a request. -/
inductive Answer where
  | response (status : Nat) (body : String)
  | unreachable (reason : String)

/-- An answer after some nanoseconds. -/
structure Delayed where
  answer : Answer
  delay : Nat := 0

/-- Why a request failed: the API refused it with a code, or there was no usable answer. -/
inductive Failure where
  | refused (code : Nat)
  | unusable
deriving DecidableEq, Repr

/-! Paths -/

def podsPath (nameSpace : String) : String := "/api/v1/namespaces/" ++ nameSpace ++ "/pods"

def podPath (nameSpace name : String) : String := podsPath nameSpace ++ "/" ++ name

/-- Whether a character may stand in a path as it is. -/
def isPathChar (c : Char) : Bool :=
  0x20 < c.toNat && !("#<>?\x60".toList.contains c)

/-- Whether a character may stand in a query as it is. -/
def isQueryChar (c : Char) : Bool :=
  0x20 < c.toNat && !("\"#<>".toList.contains c)

/-- The path that a request to a text shows: a query or a fragment is cut off. None if the text
has a character that cannot be sent. -/
def shownPath? (text : String) : Option String :=
  let path := text.toList.takeWhile fun c => c != '?' && c != '#'
  let sendable := path.all isPathChar &&
    match text.toList.drop path.length with
    | '?' :: query => (query.takeWhile (· != '#')).all isQueryChar
    | _ => true
  if sendable then some (String.ofList path) else none

/-! Bodies -/

/-- What an error body states. -/
structure Status where
  status : String := ""
  message : String := ""
  reason : String := ""
  code : Nat := 0

def Status.errorRecord : Json.Record Status where
  title := "struct ErrorResponse"
  blank := {}
  fields := [
    ⟨"status", .required, fun node s => do pure { s with status := ← Json.Decode.string node }⟩,
    ⟨"message", .defaulted, fun node s => do pure { s with message := ← Json.Decode.string node }⟩,
    ⟨"reason", .defaulted, fun node s => do pure { s with reason := ← Json.Decode.string node }⟩,
    ⟨"code", .required, fun node s => do pure { s with code := ← Json.Decode.nat16 node }⟩]

/-- The code of a refusal: the one its body states, else the status. -/
def refusalCode (status : Nat) (body : String) : Nat :=
  match Json.readText Status.errorRecord.decode body with
  | .ok stated => stated.code
  | .error _ => status

/-- The outcome of a status object, one of two words. -/
def outcomeWord : Json.Decoder Unit :=
  Json.Decode.variant [("Success", Json.Decode.bare ()), ("Failure", Json.Decode.bare ())]

def statusDetails : Schema := .object "StatusDetails" [
  Schema.opt "name" .string, Schema.opt "group" .string, Schema.opt "kind" .string,
  Schema.opt "uid" .string, Schema.opt "retryAfterSeconds" .int32]

/-- A status object that may leave everything out. -/
def statusRecord : Json.Record Unit where
  title := "struct Status"
  blank := ()
  fields := [
    ⟨"status", .optional, fun node _ => (Json.Decode.option outcomeWord node).map fun _ => ()⟩,
    ⟨"code", .defaulted, fun node _ => (Json.Decode.nat16 node).map fun _ => ()⟩,
    ⟨"message", .defaulted, fun node _ => (Json.Decode.string node).map fun _ => ()⟩,
    ⟨"reason", .defaulted, fun node _ => (Json.Decode.string node).map fun _ => ()⟩,
    ⟨"details", .optional,
      fun node _ => (Json.Decode.option (Schema.decode statusDetails) node).map fun _ => ()⟩]

/-- Whether a text reads with a decoder. -/
def reads (decode : Json.Decoder α) (text : String) : Bool :=
  match Json.readText decode text with
  | .ok _ => true
  | .error _ => false

/-- Whether a text is a status or a pod. -/
def isStatusOrPod (body : String) : Bool :=
  match Json.readText Json.Node.toJson body with
  | .error _ => false
  | .ok json =>
      let decoded : Except Json.ReadError Unit :=
        if json.member "kind" = .str "Status" then statusRecord.decode json.toNode
        else (decodePod json.toNode).map fun _ => ()
      match decoded with
      | .ok _ => true
      | .error _ => false

/-- The bodies of successful answers that a client can read. -/
structure Client where
  readsPod : String → Bool
  /-- A deletion is answered with a status or with the pod. -/
  readsDeletion : String → Bool

/-- The client as far as the schemas go. -/
def Client.bySchemas : Client where
  readsPod := reads decodePod
  readsDeletion := isStatusOrPod

/-! Outcomes -/

/-- Whether a status is one of a refusal. -/
def isRefusal (status : Nat) : Bool := 400 ≤ status && status < 600

/-- The outcome of a request whose successful body passes a test. -/
def outcome (accepts : String → Bool) : Answer → Except Failure Unit
  | .unreachable _ => .error .unusable
  | .response status body =>
      if isRefusal status then .error (.refused (refusalCode status body))
      else if accepts body then .ok ()
      else .error .unusable

/-- The outcome of a creation: a conflict is the mark of an attempt that went through before. -/
def creationOutcome (client : Client) (answer : Answer) : Except Failure Unit :=
  match outcome client.readsPod answer with
  | .error (.refused 409) => .ok ()
  | other => other

/-- The outcome of a deletion: a pod that is not found is gone already. -/
def deletionOutcome (client : Client) (answer : Answer) : Except Failure Unit :=
  match outcome client.readsDeletion answer with
  | .error (.refused 404) => .ok ()
  | other => other

end BuildScheduler.Kubernetes
