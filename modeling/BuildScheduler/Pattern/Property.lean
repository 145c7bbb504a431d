import BuildScheduler.Unicode.Classes
import BuildScheduler.Unicode.Script

/-!
# Named sets of characters

The names that a pattern may give to a set: general categories and their groups, scripts,
properties, and a few names of their own. Case, blanks, hyphens, underscores and a leading "is"
do not count.
-/

namespace BuildScheduler.Pattern

open Unicode

/-- A name in the form in which names are compared. -/
def normalName (name : List Char) : List Char :=
  let isLed := match name with
    | c :: d :: _ => (c == 'i' || c == 'I') && (d == 's' || d == 'S')
    | _ => false
  let kept := (if isLed then name.drop 2 else name).filterMap fun c =>
    if c = ' ' ∨ c = '_' ∨ c = '-' ∨ 0x7F < c.toNat then none else some c.toLower
  if isLed && kept == ['c'] then ['i', 's', 'c'] else kept

def sameName (name : List Char) (title : String) : Bool := name == normalName title.toList

/-- Groups of general categories by their names. -/
def categoryGroups : List (List String × List Category) := [
  (["L", "Letter"], Category.letters),
  (["LC", "Cased_Letter"], [.uppercaseLetter, .lowercaseLetter, .titlecaseLetter]),
  (["M", "Mark", "Combining_Mark"], Category.marks),
  (["N", "Number"], [.decimalNumber, .letterNumber, .otherNumber]),
  (["P", "Punctuation", "punct"], [.connectorPunctuation, .dashPunctuation, .openPunctuation,
    .closePunctuation, .initialPunctuation, .finalPunctuation, .otherPunctuation]),
  (["S", "Symbol"], [.mathSymbol, .currencySymbol, .modifierSymbol, .otherSymbol]),
  (["Z", "Separator"], [.spaceSeparator, .lineSeparator, .paragraphSeparator]),
  (["C", "Other"], [.control, .format, .surrogate, .privateUse, .unassigned]),
  (["cntrl"], [.control]),
  (["digit"], [.decimalNumber])]

/-- The code points of a general category, of a group of them, or of a name of their own. -/
def categoryPoints? (name : List Char) : Option CodePoints :=
  if name = "any".toList then some (CodePoints.range 0 0x10FFFF)
  else if name = "ascii".toList then some (CodePoints.range 0 0x7F)
  else if name = "assigned".toList then some Category.unassigned.points.compl
  else
    match categoryGroups.find? fun group => group.1.any (sameName name) with
    | some group => some (Category.unions group.2)
    | none =>
        (Category.all.find? fun category =>
          sameName name category.abbreviation || sameName name category.title).map Category.points

def script? (name : List Char) : Option ScriptRow :=
  scripts.find? fun script => sameName name script.code || sameName name script.title

def propertyPoints? (name : List Char) : Option CodePoints :=
  if name = "space".toList then some whiteSpace
  else
    (Property.all.find? fun property =>
      sameName name property.short || sameName name property.title).map Property.points

/-- Short names of other properties, which have no set of their own. -/
def reservedNames : List String :=
  ["age", "bc", "blk", "block", "ccc", "dm", "dt", "ea", "gc", "generalcategory", "gcb", "hst",
    "jg", "jt", "lb", "na", "name", "nt", "nv", "script", "scx", "scriptextensions", "sb", "wb",
    "sfc", "slc", "stc", "suc", "isc", "tc", "uc", "vo"]

/-- The set of a name without a value. -/
def namedPoints? (name : List Char) : Option CodePoints :=
  let name := normalName name
  let ambiguous := name = ['c', 'f'] ∨ name = ['s', 'c'] ∨ name = ['l', 'c']
  if ¬ ambiguous ∧ reservedNames.any (fun other => other.toList == name) then none
  else
    (if ambiguous then none else propertyPoints? name).or <|
      (categoryPoints? name).or <| (script? name).map ScriptRow.points

/-- The set of a name with a value. -/
def valuedPoints? (name value : List Char) : Option CodePoints :=
  let name := normalName name
  let value := normalName value
  if name = "gc".toList ∨ name = "generalcategory".toList then categoryPoints? value
  else if name = "sc".toList ∨ name = "script".toList then (script? value).map ScriptRow.points
  else if name = "scx".toList ∨ name = "scriptextensions".toList then
    (script? value).map ScriptRow.extended
  else none

/-- The ASCII sets that a class may name between colons. -/
def asciiPoints? (name : String) : Option CodePoints :=
  let upper := (65, 90)
  let lower := (97, 122)
  let digit := (48, 57)
  let ranges : Option (List (Nat × Nat)) :=
    match name with
    | "alnum" => some [digit, upper, lower]
    | "alpha" => some [upper, lower]
    | "ascii" => some [(0, 127)]
    | "blank" => some [(9, 9), (32, 32)]
    | "cntrl" => some [(0, 31), (127, 127)]
    | "digit" => some [digit]
    | "graph" => some [(33, 126)]
    | "lower" => some [lower]
    | "print" => some [(32, 126)]
    | "punct" => some [(33, 47), (58, 64), (91, 96), (123, 126)]
    | "space" => some [(9, 13), (32, 32)]
    | "upper" => some [upper]
    | "word" => some [digit, upper, (95, 95), lower]
    | "xdigit" => some [digit, (65, 70), (97, 102)]
    | _ => none
  ranges.map CodePoints.ofRanges

end BuildScheduler.Pattern
