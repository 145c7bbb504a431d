import BuildScheduler.Unicode.Property

/-!
# Everyday character classes

Blanks, decimal digits and word characters, each one set of code points computed once.
-/

namespace BuildScheduler.Unicode

def whiteSpace : CodePoints := Property.whiteSpace.points

def decimalDigits : CodePoints := Category.decimalNumber.points

/-- Letters, marks, digits, connectors and the joiners of a word. -/
def wordPoints : CodePoints :=
  CodePoints.unions [Property.alphabetic.points, Category.unions Category.marks,
    Category.decimalNumber.points, Category.connectorPunctuation.points, Property.joinControl.points]

def wordCuts : Array Nat := wordPoints.cuts.toArray

/-- Whether a character belongs to a word. -/
def isWord (c : Char) : Bool := CodePoints.containsIn wordCuts c.toNat

/-- Whether a character is a blank: the ASCII ones and the blanks of other scripts. -/
def isWhiteSpace (c : Char) : Bool := whiteSpace.contains c.toNat

/-- Categories that have no printed shape, the space apart. -/
def unprintable : CodePoints :=
  (CodePoints.unions [Category.unions [.control, .format, .surrogate, .privateUse, .unassigned,
    .lineSeparator, .paragraphSeparator, .spaceSeparator], Property.graphemeExtend.points]).diff
    (CodePoints.single 0x20)

def unprintableCuts : Array Nat := unprintable.cuts.toArray

end BuildScheduler.Unicode
