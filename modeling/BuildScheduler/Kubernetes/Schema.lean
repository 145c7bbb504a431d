import BuildScheduler.Time.Instant

/-!
# Schemas of API objects

A schema reads a node as the JSON of an API object: members that it does not name are dropped,
null is absent, of a repeated member the last one counts, and a required member that is absent
gets the default of its type. Members are read in the order of the text.
-/

namespace BuildScheduler.Kubernetes

inductive Schema where
  | string
  | bool
  | int32
  | int64
  | intOrString
  | time
  /-- A text that can have one value only. -/
  | constant (text : String)
  | list (item : Schema)
  | map (value : Schema)
  | object (title : String) (fields : List (String × Bool × Schema))
deriving Inhabited

namespace Schema

/-- A field that may be absent. -/
def opt (name : String) (schema : Schema) : String × Bool × Schema := (name, false, schema)

/-- A field that is always there. -/
def req (name : String) (schema : Schema) : String × Bool × Schema := (name, true, schema)

mutual

/-- The value of a required member that is absent. -/
def blank : Schema → Json
  | .string => .str ""
  | .bool => .bool false
  | .int32 => .int 0
  | .int64 => .int 0
  | .intOrString => .int 0
  | .time => (Instant.ofNanos 0).toJson
  | .constant text => .str text
  | .list _ => .arr []
  | .map _ => .obj []
  | .object _ fields => .obj (blankFields fields)

def blankFields : List (String × Bool × Schema) → Json.Members
  | [] => []
  | (name, required, schema) :: rest =>
      if required then Json.Members.insert name schema.blank (blankFields rest) else blankFields rest

end

/-- A 32-bit integer or a text. -/
def readIntOrString : Json.Node → Except Json.ReadError Json
  | .int value =>
      if -2147483648 ≤ value ∧ value ≤ 2147483647 then .ok (.int value)
      else .error (.invalidValue (.int value) "a 32-bit integer")
  | .str text => .ok (.str text)
  | node => .error (node.mismatch "IntOrString")

def readConstant (text : String) (node : Json.Node) : Except Json.ReadError Json := do
  let found ← Json.Decode.string node
  if found = text then .ok (.str found) else .error (.invalidValue (.str found) text)

/-- Reads what is neither a list nor a map nor an object. -/
def readScalar (schema : Schema) (node : Json.Node) : Except Json.ReadError Json :=
  match schema with
  | .string => (Json.Decode.string node).map .str
  | .bool => (Json.Decode.bool node).map .bool
  | .int32 => (Json.Decode.int32 node).map .int
  | .int64 => (Json.Decode.int64 node).map .int
  | .intOrString => readIntOrString node
  | .time => (Instant.decode node).map Instant.toJson
  | .constant text => readConstant text node
  | .list _ => .error (node.mismatch "a sequence")
  | .map _ => .error (node.mismatch "a map")
  | .object title _ => .error (node.mismatch title)

/-- Whether null stands for an absent member. -/
def admitsNull : Schema → Bool
  | .constant _ => false
  | _ => true

def isNull : Json.Node → Bool
  | .null => true
  | _ => false

mutual

def read : Json.Node → Schema → Except Json.ReadError Json
  | .arr items tail, .list item => do
      let values ← readItems items item
      Json.Decode.closing tail
      pure (.arr values)
  | .obj members tail, .map value => do
      let values ← readValues members value []
      Json.Decode.closing tail
      pure (.obj values)
  | .obj members tail, .object _ fields => do
      let values ← readFields members fields (blankFields fields)
      Json.Decode.closing tail
      pure (.obj values)
  | .deep (.arr _ _), .list _ => .error (.fault .malformed)
  | .deep (.obj _ _), .map _ => .error (.fault .malformed)
  | .deep (.obj _ _), .object _ _ => .error (.fault .malformed)
  | node, schema => readScalar schema node

def readItems : List Json.Node → Schema → Except Json.ReadError (List Json)
  | [], _ => .ok []
  | node :: rest, item => do
      let value ← read node item
      let values ← readItems rest item
      pure (value :: values)

def readValues : List (Option String × Json.Node) → Schema → Json.Members →
    Except Json.ReadError Json.Members
  | [], _, found => .ok found
  | (none, _) :: _, _, _ => .error (.fault .malformed)
  | (some name, node) :: rest, value, found => do
      let read ← read node value
      readValues rest value (Json.Members.insert name read found)

/-- Reads the members that the fields name over what is found so far. -/
def readFields : List (Option String × Json.Node) → List (String × Bool × Schema) → Json.Members →
    Except Json.ReadError Json.Members
  | [], _, found => .ok found
  | (none, _) :: _, _, _ => .error (.fault .malformed)
  | (some name, node) :: rest, fields, found =>
      match fields.lookup name with
      | none => do
          node.skip
          readFields rest fields found
      | some (required, schema) =>
          if schema.admitsNull && isNull node then
            let found := if required then Json.Members.insert name schema.blank found
              else found.filter (·.1 != name)
            readFields rest fields found
          else do
            let value ← read node schema
            readFields rest fields (Json.Members.insert name value found)

end

/-- The decoder of a schema. -/
def decode (schema : Schema) : Json.Decoder Json := fun node => read node schema

end Schema

end BuildScheduler.Kubernetes
