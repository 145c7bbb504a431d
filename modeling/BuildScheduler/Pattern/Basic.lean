import BuildScheduler.Unicode.Classes

/-!
# Patterns and what they match

A pattern takes a set of positions in a text to the positions where a match begun in the set
can end. A text matches when a match begun anywhere ends somewhere, so which of several
matches is preferred plays no part.
-/

namespace BuildScheduler

/-- Conditions on a position that take up no character. -/
inductive Look where
  | textStart
  | textEnd
  | lineStart
  | lineEnd
  | crlfStart
  | crlfEnd
  | wordBoundary (ascii : Bool)
  | noWordBoundary (ascii : Bool)
  | wordStart (ascii : Bool)
  | wordEnd (ascii : Bool)
  | wordStartHalf (ascii : Bool)
  | wordEndHalf (ascii : Bool)
deriving DecidableEq, Repr

inductive Pattern where
  | empty
  | chars (set : CodePoints)
  | look (look : Look)
  | seq (first second : Pattern)
  | alt (first second : Pattern)
  | repetition (body : Pattern) (least : Nat) (most : Option Nat)
deriving DecidableEq, Repr

/-- Positions in a text, in increasing order. -/
abbrev Positions := List Nat

namespace Positions

def union : Positions → Positions → Positions
  | [], bs => bs
  | as, [] => as
  | a :: as, b :: bs =>
      if a < b then a :: union as (b :: bs)
      else if b < a then b :: union (a :: as) bs
      else a :: union as bs
termination_by as bs => as.length + bs.length

def diff : Positions → Positions → Positions
  | [], _ => []
  | as, [] => as
  | a :: as, b :: bs =>
      if a < b then a :: diff as (b :: bs)
      else if b < a then diff (a :: as) bs
      else diff as bs
termination_by as bs => as.length + bs.length

/-- Every position of a text, its end included. -/
def all (text : Array Char) : Positions := List.range (text.size + 1)

end Positions

namespace Look

def isAsciiWord (c : Char) : Bool := c.isAlphanum || c == '_'

/-- Whether the character at an index is there and belongs to a word. -/
def wordAt (ascii : Bool) (c? : Option Char) : Bool :=
  c?.any fun c => if ascii then isAsciiWord c else Unicode.isWord c

def before? (text : Array Char) (position : Nat) : Option Char :=
  if position = 0 then none else text[position - 1]?

/-- Whether the condition holds at a position. -/
def holds (text : Array Char) (position : Nat) : Look → Bool
  | .textStart => position == 0
  | .textEnd => position == text.size
  | .lineStart => position == 0 || before? text position == some '\n'
  | .lineEnd => position == text.size || text[position]? == some '\n'
  | .crlfStart =>
      position == 0 || before? text position == some '\n' ||
        (before? text position == some '\r' && text[position]? != some '\n')
  | .crlfEnd =>
      position == text.size || text[position]? == some '\r' ||
        (text[position]? == some '\n' && before? text position != some '\r')
  | .wordBoundary ascii => wordAt ascii (before? text position) != wordAt ascii text[position]?
  | .noWordBoundary ascii => wordAt ascii (before? text position) == wordAt ascii text[position]?
  | .wordStart ascii => !wordAt ascii (before? text position) && wordAt ascii text[position]?
  | .wordEnd ascii => wordAt ascii (before? text position) && !wordAt ascii text[position]?
  | .wordStartHalf ascii => !wordAt ascii (before? text position)
  | .wordEndHalf ascii => !wordAt ascii text[position]?

end Look

namespace Pattern

/-- Takes a step a number of times, stopping where it leads nowhere new. -/
def steps (step : Positions → Positions) : Nat → Positions → Positions
  | 0, positions => positions
  | count + 1, positions =>
      let next := step positions
      if next = positions then positions else steps step count next

/-- The positions within a number of steps of the last found ones, with the ones seen before. -/
def reach (step : Positions → Positions) : Nat → Positions → Positions → Positions
  | 0, seen, _ => seen
  | count + 1, seen, last =>
      let found := Positions.diff (step last) seen
      if found.isEmpty then seen else reach step count (Positions.union seen found) found

/-- The position after each position at which a character of the set stands. -/
def advance (text : Array Char) (set : CodePoints) (positions : Positions) : Positions :=
  let cuts := set.cuts.toArray
  positions.filterMap fun position =>
    (text[position]?).bind fun c =>
      if CodePoints.containsIn cuts c.toNat then some (position + 1) else none

/-- Where a match begun at one of the positions can end. A repetition without an upper bound
needs no more steps than the text has positions. -/
def ends (text : Array Char) : Pattern → Positions → Positions
  | .empty, positions => positions
  | .chars set, positions => advance text set positions
  | .look condition, positions => positions.filter fun position => condition.holds text position
  | .seq first second, positions => ends text second (ends text first positions)
  | .alt first second, positions =>
      Positions.union (ends text first positions) (ends text second positions)
  | .repetition body least most, positions =>
      let start := steps (ends text body) least positions
      let more := match most with
        | some most => most - least
        | none => text.size + 1
      reach (ends text body) more start start

/-- Whether a match begins anywhere in the text. -/
def matchesText (pattern : Pattern) (text : String) : Bool :=
  let text := text.toList.toArray
  !(ends text pattern (Positions.all text)).isEmpty

/-! An estimate of the room a pattern takes as an automaton over bytes. What groups add and what
sets save by sharing the ends of their encodings is left out, so it tells little about a pattern
that comes close to the limit. -/

def stateSize : Nat := 32

/-- The room of a set: one state for single bytes, and some more for each longer range. -/
def setSize : List Nat → Nat
  | low :: high :: rest =>
      let bytes := if high ≤ 0x80 then 8
        else if high = low + 1 then 32 * (if low < 0x800 then 1 else if low < 0x10000 then 2 else 3)
        else 62
      bytes + setSize rest
  | [_] => 62
  | [] => stateSize

def size : Pattern → Nat
  | .empty => stateSize
  | .chars set => setSize set.cuts
  | .look _ => stateSize
  | .seq first second => size first + size second
  | .alt first second => size first + size second + stateSize
  | .repetition body least most =>
      match most with
      | some most => (max most 1) * size body + (most - least + 1) * stateSize
      | none => (max least 1) * size body + stateSize

/-- The most room an automaton may take. -/
def sizeLimit : Nat := 10485760

end Pattern

end BuildScheduler
