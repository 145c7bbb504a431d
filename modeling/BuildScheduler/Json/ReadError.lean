import BuildScheduler.Json.Basic
import BuildScheduler.Text.Quoted

/-!
# Why a JSON text was not read

A fault of the text itself stops every reading that meets it; the other causes say how a
well-formed value differs from the shape asked for.
-/

namespace BuildScheduler.Json

/-- A text that is not one JSON value: it ends too early, or it goes wrong. -/
inductive Fault where
  | truncated
  | malformed
deriving DecidableEq, Repr

/-- What was met where something else was expected. -/
inductive Found where
  | null
  | bool (value : Bool)
  | int (value : Int)
  | double (value : Binary64)
  | str (text : String)
  | sequence
  | map
  | unitVariant
deriving DecidableEq

inductive ReadError where
  | fault (fault : Fault)
  | missingField (name : String)
  | duplicateField (name : String)
  | unknownField (name : String)
  | unknownVariant (name : String) (known : List String)
  | invalidType (found : Found) (wanted : String)
  | invalidValue (found : Found) (wanted : String)
  | invalidLength (length : Nat) (wanted : String)
  | noVariant
  | overflow (wanted : String)
  | badPattern (pattern : String)
deriving DecidableEq

def Found.describe : Found → String
  | .null => "null"
  | .bool value => "boolean `" ++ (if value then "true" else "false") ++ "`"
  | .int value => "integer `" ++ toString value ++ "`"
  | .double value => "floating point `" ++ value.render ++ "`"
  | .str text => "string " ++ Text.quote text
  | .sequence => "sequence"
  | .map => "map"
  | .unitVariant => "unit variant"

/-- A name between grave accents. -/
def quoted (name : String) : String := "`" ++ name ++ "`"

/-- The known names in words: one, two joined by "or", or a list. -/
def oneOf : List String → String
  | [] => "there are no variants"
  | [a] => "expected " ++ quoted a
  | [a, b] => "expected " ++ quoted a ++ " or " ++ quoted b
  | names => "expected one of " ++ String.intercalate ", " (names.map quoted)

namespace ReadError

/-- Whether the text itself is at fault, not the shape of its value. -/
def isFault : ReadError → Bool
  | .fault _ => true
  | _ => false

def message : ReadError → String
  | .fault .truncated => "unexpected end of text"
  | .fault .malformed => "malformed text"
  | .missingField name => "missing field " ++ quoted name
  | .duplicateField name => "duplicate field " ++ quoted name
  | .unknownField name => "unknown field " ++ quoted name
  | .unknownVariant name known => "unknown variant " ++ quoted name ++ ", " ++ oneOf known
  | .invalidType found wanted => "invalid type: " ++ found.describe ++ ", expected " ++ wanted
  | .invalidValue found wanted => "invalid value: " ++ found.describe ++ ", expected " ++ wanted
  | .invalidLength length wanted => "invalid length " ++ toString length ++ ", expected " ++ wanted
  | .noVariant => "expected a variant name"
  | .overflow wanted => "overflow reading " ++ wanted
  | .badPattern pattern => "invalid input: managed ref pattern " ++ pattern

end ReadError

end BuildScheduler.Json
