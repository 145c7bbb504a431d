import BuildScheduler.Json.Reader

/-!
# Decoders

A decoder reads a node as a value of one type. Decoders of compounds visit their parts in the
order of the text.
-/

namespace BuildScheduler.Json

abbrev Decoder (α : Type) := Node → Except ReadError α

namespace Decode

def string : Decoder String
  | .str text => .ok text
  | node => .error (node.mismatch "a string")

def bool : Decoder Bool
  | .bool value => .ok value
  | node => .error (node.mismatch "a boolean")

/-- An integer between two bounds, of a type named `wanted`. -/
def integer (low high : Int) (wanted : String) : Decoder Int
  | .int value =>
      if low ≤ value ∧ value ≤ high then .ok value
      else .error (.invalidValue (.int value) wanted)
  | node => .error (node.mismatch wanted)

def int32 : Decoder Int := integer (-2147483648) 2147483647 "i32"

def int64 : Decoder Int := integer (-9223372036854775808) 9223372036854775807 "i64"

def nat16 (node : Node) : Except ReadError Nat :=
  (integer 0 65535 "u16" node).map Int.toNat

def nat32 (node : Node) : Except ReadError Nat :=
  (integer 0 4294967295 "u32" node).map Int.toNat

def nat64 (node : Node) : Except ReadError Nat :=
  (integer 0 18446744073709551615 "u64" node).map Int.toNat

/-- Nothing for null. -/
def option (decode : Decoder α) : Decoder (Option α)
  | .null => .ok none
  | node => (decode node).map some

/-- The parts of a compound were read; the fault after the last one stops the reading. -/
def closing (tail : Option Fault) : Except ReadError Unit :=
  match tail with
  | some cause => .error (.fault cause)
  | none => .ok ()

def list (decode : Decoder α) : Decoder (List α)
  | .arr items tail => do
      let values ← items.mapM decode
      closing tail
      pure values
  | .deep (.arr _ _) => .error (.fault .malformed)
  | node => .error (node.mismatch "a sequence")

/-- The members of an object with the values that a decoder reads, in the order of the text. -/
def entries (decode : Decoder α) : Decoder (List (String × α))
  | .obj members tail => do
      let values ← members.mapM fun member =>
        match member with
        | (none, _) => .error (.fault .malformed)
        | (some name, node) => (decode node).map fun value => (name, value)
      closing tail
      pure values
  | .deep (.obj _ _) => .error (.fault .malformed)
  | node => .error (node.mismatch "a map")

def unit : Decoder Unit
  | .null => .ok ()
  | node => .error (node.mismatch "unit")

/-- A variant written as its name, or as an object with its name as the one member. The
decoder of a variant gets none for a bare name. -/
def variant (known : List (String × (Option Node → Except ReadError α))) : Decoder α
  | .str name =>
      match known.lookup name with
      | some decode => decode none
      | none => .error (.unknownVariant name (known.map (·.1)))
  | .obj members tail =>
      match members with
      | [] => .error (.fault (tail.getD .malformed))
      | (none, _) :: _ => .error (.fault .malformed)
      | (some name, node) :: rest =>
          match known.lookup name with
          | none => .error (.unknownVariant name (known.map (·.1)))
          | some decode => do
              let value ← decode (some node)
              match rest with
              | _ :: _ => .error (.fault .malformed)
              | [] => do
                  closing tail
                  pure value
  | .fault cause => .error (.fault cause)
  | _ => .error (.fault .malformed)

/-- The decoder of a variant without content. -/
def bare (value : α) : Option Node → Except ReadError α
  | none => .ok value
  | some node => (unit node).map fun _ => value

end Decode

/-! Records -/

/-- Whether a field may be missing: never; always; or in the object form alone. -/
inductive Presence where
  | required
  | defaulted
  | optional
deriving DecidableEq

structure Field (α : Type) where
  name : String
  presence : Presence
  read : Node → α → Except ReadError α

/-- What becomes of a member that no field names. -/
inductive Unknown (α : Type) where
  | skipped
  | refused
  | kept (keep : String → Json → α → α)

/-- A record type as it is read: `blank` is the record before any field is. -/
structure Record (α : Type) where
  title : String
  blank : α
  fields : List (Field α)
  unknown : Unknown α := .skipped

namespace Record

/-- Reads members in the order of the text; `seen` are the fields read so far. -/
def readMembers (record : Record α) :
    List (Option String × Node) → α → List String → Except ReadError (α × List String)
  | [], value, seen => .ok (value, seen)
  | (none, _) :: _, _, _ => .error (.fault .malformed)
  | (some name, node) :: rest, value, seen =>
      match record.fields.find? (·.name == name) with
      | some field =>
          if seen.contains name then .error (.duplicateField name)
          else do
            let value ← field.read node value
            readMembers record rest value (name :: seen)
      | none =>
          match record.unknown with
          | .skipped => do
              node.skip
              readMembers record rest value seen
          | .refused => .error (.unknownField name)
          | .kept keep => do
              let json ← node.toJson
              readMembers record rest (keep name json value) seen

/-- The first field that had to be there and was not. -/
def missing? (record : Record α) (seen : List String) : Option String :=
  (record.fields.find? fun field => field.presence == .required && !seen.contains field.name).map
    (·.name)

/-- Reads fields from the items of the array form, in the order of the fields. -/
def readItems (title : String) (total : Nat) :
    List (Field α) → List Node → Option Fault → α → Except ReadError α
  | [], [], tail, value => do
      Decode.closing tail
      pure value
  | [], _ :: _, _, _ => .error (.fault .malformed)
  | field :: fields, item :: items, tail, value => do
      let value ← field.read item value
      readItems title total fields items tail value
  | field :: fields, [], tail, value =>
      match tail with
      | some cause => .error (.fault cause)
      | none =>
          if field.presence == .defaulted then readItems title total fields [] none value
          else .error (.invalidLength (total - (fields.length + 1)) title)

def readObject (record : Record α) (members : List (Option String × Node)) (tail : Option Fault) :
    Except ReadError α := do
  let (value, seen) ← record.readMembers members record.blank []
  Decode.closing tail
  match record.missing? seen with
  | some name => .error (.missingField name)
  | none => pure value

/-- Reads the object form, or the array form unless members of other names are kept. -/
def decode (record : Record α) : Decoder α
  | .obj members tail => record.readObject members tail
  | .arr items tail =>
      match record.unknown with
      | .kept _ => .error (.invalidType .sequence record.title)
      | _ => readItems record.title record.fields.length record.fields items tail record.blank
  | .deep node =>
      match node, record.unknown with
      | .arr _ _, .kept _ => .error (.invalidType .sequence record.title)
      | _, _ => .error (.fault .malformed)
  | node => .error (node.mismatch record.title)

end Record

end BuildScheduler.Json
