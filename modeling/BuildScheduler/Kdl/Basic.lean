/-!
# KDL documents

A document is a list of nodes; a node has a name, entries and children, and an entry is a value
that stands for itself or is a property. Type annotations are not kept.
-/

namespace BuildScheduler.Kdl

inductive Value where
  | str (text : String)
  | int (value : Int)
  /-- A number that is no integer; its value is not kept. -/
  | real
  | bool (value : Bool)
  | null
deriving DecidableEq, Repr

namespace Value

def string? : Value → Option String
  | .str text => some text
  | _ => none

def integer? : Value → Option Int
  | .int value => some value
  | _ => none

end Value

structure Entry where
  name : Option String := none
  value : Value
deriving DecidableEq, Repr

inductive Node where
  | mk (name : String) (entries : List Entry) (children : List Node)
deriving Inhabited, Repr

namespace Node

def name : Node → String
  | mk name _ _ => name

def entries : Node → List Entry
  | mk _ entries _ => entries

def children : Node → List Node
  | mk _ _ children => children

/-- The first entry that is no property. -/
def argument? (node : Node) : Option Value := (node.entries.find? (·.name.isNone)).map (·.value)

/-- The last property of a name. -/
def property? (node : Node) (name : String) : Option Value :=
  (node.entries.reverse.find? (·.name == some name)).map (·.value)

end Node

abbrev Document := List Node

end BuildScheduler.Kdl
