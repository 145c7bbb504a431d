import BuildScheduler.Json.ReadError

/-!
# JSON texts as trees of what was met

A node is a value as a left-to-right reading of a text meets it: members keep their order and
repetitions, and a fault stands where the text goes wrong. Nothing follows a fault, so a
decoder that walks a node in order reports whichever error comes first in the text.

Two faults are milder. A `spoiled` token follows the grammar but has no value: a string with
half of a surrogate pair, or a number beyond the doubles. A `deep` compound is nested below
the depth a reading admits. Both can be passed over, and neither can be read.
-/

namespace BuildScheduler.Json

inductive Node where
  | null
  | bool (value : Bool)
  | int (value : Int)
  | double (value : Binary64)
  | str (text : String)
  | spoiled
  | fault (fault : Fault)
  | arr (items : List Node) (tail : Option Fault)
  | obj (members : List (Option String × Node)) (tail : Option Fault)
  | deep (node : Node)
deriving Inhabited

/-- A member as met: its name, unless the name itself is spoiled. -/
abbrev Node.Member := Option String × Node

/-- A text as met: its first value, and what is wrong after it. -/
structure Document where
  root : Node
  trailing : Option Fault

mutual

/-- A value as a node, in which nothing is at fault. -/
def toNode : Json → Node
  | .null => .null
  | .bool value => .bool value
  | .int value => .int value
  | .double value => .double value
  | .str text => .str text
  | .arr items => .arr (itemNodes items) none
  | .obj members => .obj (memberNodes members) none

def itemNodes : List Json → List Node
  | [] => []
  | item :: rest => toNode item :: itemNodes rest

def memberNodes : List (String × Json) → List (Option String × Node)
  | [] => []
  | (name, value) :: rest => (some name, toNode value) :: memberNodes rest

end

namespace Node

mutual

/-- The first fault inside a node, for a reading that passes the node over. -/
def firstFault : Node → Option Fault
  | .fault cause => some cause
  | .arr items tail => (firstFaultItems items).or tail
  | .obj members tail => (firstFaultMembers members).or tail
  | .deep node => firstFault node
  | _ => none

def firstFaultItems : List Node → Option Fault
  | [] => none
  | item :: rest => (firstFault item).or (firstFaultItems rest)

def firstFaultMembers : List (Option String × Node) → Option Fault
  | [] => none
  | (_, value) :: rest => (firstFault value).or (firstFaultMembers rest)

end

/-- Passes a node over. -/
def skip (node : Node) : Except ReadError Unit :=
  match node.firstFault with
  | some cause => .error (.fault cause)
  | none => .ok ()

/-- The error of a node that is not of the wanted shape. -/
def mismatch (node : Node) (wanted : String) : ReadError :=
  match node with
  | .null => .invalidType .null wanted
  | .bool value => .invalidType (.bool value) wanted
  | .int value => .invalidType (.int value) wanted
  | .double value => .invalidType (.double value) wanted
  | .str text => .invalidType (.str text) wanted
  | .spoiled => .fault .malformed
  | .fault cause => .fault cause
  | .arr _ _ => .invalidType .sequence wanted
  | .obj _ _ => .invalidType .map wanted
  | .deep (.obj _ _) => .invalidType .map wanted
  | .deep _ => .invalidType .sequence wanted

mutual

/-- The value of a node: of repeated members the last one counts. -/
def toJson : Node → Except ReadError Json
  | .null => .ok .null
  | .bool value => .ok (.bool value)
  | .int value => .ok (.int value)
  | .double value => .ok (.double value)
  | .str text => .ok (.str text)
  | .spoiled => .error (.fault .malformed)
  | .fault cause => .error (.fault cause)
  | .arr items tail => do
      let values ← itemsToJson items
      match tail with
      | some cause => .error (.fault cause)
      | none => .ok (.arr values)
  | .obj members tail => do
      let values ← membersToJson members
      match tail with
      | some cause => .error (.fault cause)
      | none => .ok (Json.object values)
  | .deep _ => .error (.fault .malformed)

def itemsToJson : List Node → Except ReadError (List Json)
  | [] => .ok []
  | item :: rest => do
      let value ← toJson item
      let values ← itemsToJson rest
      .ok (value :: values)

def membersToJson : List (Option String × Node) → Except ReadError (List (String × Json))
  | [] => .ok []
  | (none, _) :: _ => .error (.fault .malformed)
  | (some name, node) :: rest => do
      let value ← toJson node
      let values ← membersToJson rest
      .ok ((name, value) :: values)

end

end Node

namespace Document

/-- Reads the value with a decoder, then asks that nothing is wrong after it. -/
def read (document : Document) (decode : Node → Except ReadError α) : Except ReadError α := do
  let value ← decode document.root
  match document.trailing with
  | some cause => .error (.fault cause)
  | none => .ok value

end Document

end BuildScheduler.Json
