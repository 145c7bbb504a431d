import BuildScheduler.Pattern.Basic
import BuildScheduler.Pattern.Property
import BuildScheduler.Unicode.CaseFold
import BuildScheduler.Text.Digits

/-!
# Reading patterns

The text of a pattern is read once from left to right. Flags hold from where they stand to the
end of their group. Besides the pattern, a reading finds its height, which counts groups,
repetitions, alternations, sequences and classes around one another: more than `heightLimit`
of them are refused, and so is a pattern that the engine has no room for. How much room an
engine needs is a parameter of the reading; the program goes by an estimate.
-/

namespace BuildScheduler.Pattern

structure Flags where
  ignoreCase : Bool := false
  multiLine : Bool := false
  dotAll : Bool := false
  swapGreed : Bool := false
  unicode : Bool := true
  crlf : Bool := false
  spaced : Bool := false

def heightLimit : Nat := 250

/-- Skips blanks and comments when they do not count. -/
def skipComment : List Char → List Char
  | [] => []
  | c :: rest => if c = '\n' then rest else skipComment rest

/-- Fuel is the number of characters left. -/
def skipSpacedAux : Nat → List Char → List Char
  | 0, cs => cs
  | fuel + 1, cs =>
      match cs with
      | [] => []
      | c :: rest =>
          if Unicode.isWhiteSpace c then skipSpacedAux fuel rest
          else if c = '#' then skipSpacedAux fuel (skipComment rest)
          else cs

def Flags.skip (flags : Flags) (cs : List Char) : List Char :=
  if flags.spaced then skipSpacedAux cs.length cs else cs

/-! Sets under the flags -/

/-- The set as written, closed under case if case does not count. -/
def Flags.fold (flags : Flags) (set : CodePoints) : CodePoints :=
  if ¬ flags.ignoreCase then set
  else if flags.unicode then Unicode.closeUnderCase set
  else
    let shift (low high : Nat) (up : Bool) :=
      CodePoints.ofPoints (((List.range 26).map (· + low)).filterMap fun point =>
        if point ≤ high ∧ set.contains point then some (if up then point + 32 else point - 32)
        else none)
    set.union ((shift 65 90 true).union (shift 97 122 false))

/-- A set that byte-wise matching may use: ASCII alone. -/
def Flags.permit? (flags : Flags) (set : CodePoints) : Option CodePoints :=
  if flags.unicode ∨ (set.diff (CodePoints.range 0 127)).cuts = [] then some set else none

def Flags.negate (negated : Bool) (set : CodePoints) : CodePoints := if negated then set.compl else set

def asciiDigits : CodePoints := CodePoints.range 48 57

def asciiSpaces : CodePoints := CodePoints.ofRanges [(9, 13), (32, 32)]

def asciiWords : CodePoints := CodePoints.ofRanges [(48, 57), (65, 90), (95, 95), (97, 122)]

/-- The set of a digit, blank or word class. -/
def Flags.perlPoints? (flags : Flags) (letter : Char) : Option CodePoints :=
  let set? := match letter.toLower with
    | 'd' => some (if flags.unicode then Unicode.decimalDigits else asciiDigits)
    | 's' => some (if flags.unicode then Unicode.whiteSpace else asciiSpaces)
    | 'w' => some (if flags.unicode then Unicode.wordPoints else asciiWords)
    | _ => none
  set?.bind fun set => flags.permit? (Flags.negate letter.isUpper set)

def Flags.anyPoints? (flags : Flags) : Option CodePoints :=
  if ¬ flags.unicode then none
  else if flags.dotAll then some CodePoints.empty.compl
  else if flags.crlf then some (CodePoints.ofPoints [10, 13]).compl
  else some (CodePoints.single 10).compl

/-! Escapes -/

/-- What an escape or a plain character stands for. -/
inductive Primitive where
  | literal (c : Char) (byte : Bool)
  | set (points : CodePoints)
  | look (condition : Look)

def isMeta (c : Char) : Bool := "\\.+*?()|[]\x7b\x7d^$#&-~".toList.contains c

/-- Whether a backslash before the character stands for the character. -/
def isEscapable (c : Char) : Bool :=
  isMeta c || (c.toNat < 128 && !c.isAlphanum && c != '<' && c != '>')

/-- The character of a number, if it has one. -/
def charOfNat? (n : Nat) : Option Char := if n.isValidChar then some (Char.ofNat n) else none

/-- A fixed number of hexadecimal digits, with blanks skipped after each. -/
def hexDigits? (flags : Flags) : Nat → Nat → List Char → Option (Nat × List Char)
  | 0, value, cs => some (value, cs)
  | count + 1, value, cs =>
      match cs with
      | [] => none
      | c :: rest => (Text.hexValue? c).bind fun digit => hexDigits? flags count (16 * value + digit) (flags.skip rest)

/-- Hexadecimal digits up to the closing brace; fuel is the number of characters left. -/
def hexBraced? (flags : Flags) : Nat → Bool → Nat → List Char → Option (Nat × List Char)
  | 0, _, _, _ => none
  | fuel + 1, started, value, cs =>
      match cs with
      | [] => none
      | '\x7d' :: rest => if started then some (value, flags.skip rest) else none
      | c :: rest =>
          (Text.hexValue? c).bind fun digit => hexBraced? flags fuel true (16 * value + digit) (flags.skip rest)

/-- The character of a hexadecimal escape after its letter. -/
def hexEscape? (flags : Flags) (count : Nat) (cs : List Char) : Option (Primitive × List Char) := do
  match flags.skip cs with
  | '\x7b' :: rest =>
      let (value, rest) ← hexBraced? flags (rest.length + 1) false 0 (flags.skip rest)
      let c ← charOfNat? value
      some (.literal c false, rest)
  | cs =>
      let (value, rest) ← hexDigits? flags count 0 cs
      let c ← charOfNat? value
      some (.literal c (count == 2), rest)

/-- The characters up to the closing brace, blanks skipped; fuel is the number of characters left. -/
def braced? (flags : Flags) : Nat → List Char → Option (List Char × List Char)
  | 0, _ => none
  | fuel + 1, cs =>
      match flags.skip cs with
      | [] => none
      | '\x7d' :: rest => some ([], rest)
      | c :: rest => (braced? flags fuel rest).map fun (name, rest) => (c :: name, rest)

/-- Splits at the first place where a mark stands. -/
def splitAt? (mark : List Char) : List Char → Option (List Char × List Char)
  | [] => none
  | c :: rest =>
      if mark.isPrefixOf (c :: rest) then some ([], (c :: rest).drop mark.length)
      else (splitAt? mark rest).map fun (before, after) => (c :: before, after)

/-- The set of a name between braces; an unequal sign asks for its complement. -/
def querySet? (name : List Char) : Option (CodePoints × Bool) :=
  match splitAt? ['!', '='] name with
  | some (property, value) => (valuedPoints? property value).map fun set => (set, true)
  | none =>
      match splitAt? [':'] name with
      | some (property, value) => (valuedPoints? property value).map fun set => (set, false)
      | none =>
          match splitAt? ['='] name with
          | some (property, value) => (valuedPoints? property value).map fun set => (set, false)
          | none => (namedPoints? name).map fun set => (set, false)

/-- The set of a property escape after its letter. -/
def propertyEscape? (flags : Flags) (negated : Bool) (cs : List Char) :
    Option (Primitive × List Char) := do
  let ((set, unequal), rest) ←
    match flags.skip cs with
    | [] => none
    | '\x7b' :: rest => do
        let (name, rest) ← braced? flags (rest.length + 1) rest
        let query ← querySet? name
        some (query, rest)
    | '\\' :: _ => none
    | c :: rest => do
        let set ← namedPoints? [c]
        some ((set, false), rest)
  if flags.unicode then some (.set (Flags.negate (negated != unequal) (flags.fold set)), rest) else none

def isBoundaryLetter (c : Char) : Bool := c.isAlpha || c == '-'

/-- The letters of a boundary's name, blanks skipped; fuel is the number of characters left. -/
def boundaryName (flags : Flags) : Nat → List Char → List Char × List Char
  | 0, cs => ([], cs)
  | fuel + 1, cs =>
      match cs with
      | c :: rest =>
          if isBoundaryLetter c then
            let (name, rest) := boundaryName flags fuel (flags.skip rest)
            (c :: name, rest)
          else ([], cs)
      | [] => ([], [])

/-- A word boundary after its letter: a name in braces makes it one-sided. -/
def boundaryEscape? (flags : Flags) (cs : List Char) : Option (Primitive × List Char) :=
  let ascii := !flags.unicode
  match cs with
  | '\x7b' :: rest =>
      match flags.skip rest with
      | [] => none
      | c :: more =>
          if isBoundaryLetter c then
            match boundaryName flags (more.length + 1) (c :: more) with
            | (name, '\x7d' :: rest) =>
                match String.ofList name with
                | "start" => some (.look (.wordStart ascii), rest)
                | "end" => some (.look (.wordEnd ascii), rest)
                | "start-half" => some (.look (.wordStartHalf ascii), rest)
                | "end-half" => some (.look (.wordEndHalf ascii), rest)
                | _ => none
            | _ => none
          else some (.look (.wordBoundary ascii), cs)
  | _ => some (.look (.wordBoundary ascii), cs)

/-- An escape after its backslash. -/
def escape? (flags : Flags) (cs : List Char) : Option (Primitive × List Char) :=
  match cs with
  | [] => none
  | 'x' :: rest => hexEscape? flags 2 rest
  | 'u' :: rest => hexEscape? flags 4 rest
  | 'U' :: rest => hexEscape? flags 8 rest
  | 'p' :: rest => propertyEscape? flags false rest
  | 'P' :: rest => propertyEscape? flags true rest
  | 'a' :: rest => some (.literal '\x07' false, rest)
  | 'f' :: rest => some (.literal '\x0c' false, rest)
  | 't' :: rest => some (.literal '\t' false, rest)
  | 'n' :: rest => some (.literal '\n' false, rest)
  | 'r' :: rest => some (.literal '\r' false, rest)
  | 'v' :: rest => some (.literal '\x0b' false, rest)
  | 'A' :: rest => some (.look .textStart, rest)
  | 'z' :: rest => some (.look .textEnd, rest)
  | 'b' :: rest => boundaryEscape? flags rest
  | 'B' :: rest => some (.look (.noWordBoundary (!flags.unicode)), rest)
  | '<' :: rest => some (.look (.wordStart (!flags.unicode)), rest)
  | '>' :: rest => some (.look (.wordEnd (!flags.unicode)), rest)
  | c :: rest =>
      if ['d', 'D', 's', 'S', 'w', 'W'].contains c then
        (flags.perlPoints? c).map fun set => (.set set, rest)
      else if isEscapable c then some (.literal c false, rest)
      else none

/-! Classes -/

inductive SetOp where
  | inter
  | diff
  | symmDiff

def SetOp.apply : SetOp → CodePoints → CodePoints → CodePoints
  | .inter => CodePoints.inter
  | .diff => CodePoints.diff
  | .symmDiff => CodePoints.symmDiff

/-- A class as read so far: the items of the current union, and what stands before it. -/
structure ClassState where
  items : List CodePoints := []
  height : Nat := 0
  before : Option (CodePoints × SetOp) := none
  /-- Levels of operations before the current union. -/
  opHeight : Nat := 0

namespace ClassState

def push (state : ClassState) (set : CodePoints) (height : Nat) : ClassState :=
  { state with items := set :: state.items, height := max state.height height }

/-- The height of the current union. -/
def unionHeight (state : ClassState) : Nat :=
  if 1 < state.items.length then state.height + 1 else state.height

/-- The value of everything read so far, with its height; operands are folded before an
operation. -/
def value (flags : Flags) (state : ClassState) : CodePoints × Nat :=
  let union := CodePoints.unions state.items
  match state.before with
  | none => (union, state.unionHeight)
  | some (left, op) =>
      (op.apply (flags.fold left) (flags.fold union), 1 + max state.opHeight state.unionHeight)

def operate (flags : Flags) (op : SetOp) (state : ClassState) : ClassState :=
  let (left, height) := state.value flags
  { before := some (left, op), opHeight := height }

end ClassState

/-- One end of a range, or an item of its own. -/
def classPrimitive? (flags : Flags) (cs : List Char) : Option (Primitive × List Char) :=
  match cs with
  | [] => none
  | '\\' :: rest => escape? flags rest
  | c :: rest => some (.literal c false, rest)

/-- The number of a character that a class may name under the flags. -/
def classLiteral? (flags : Flags) : Primitive → Option Nat
  | .literal c _ => if flags.unicode ∨ c.toNat < 128 then some c.toNat else none
  | _ => none

/-- The set of one item. -/
def classItem? (flags : Flags) : Primitive → Option CodePoints
  | .literal c byte => (classLiteral? flags (.literal c byte)).map CodePoints.single
  | .set set => some set
  | .look _ => none

/-- A character, a set or a range. -/
def classRange? (flags : Flags) (cs : List Char) : Option (CodePoints × List Char) := do
  let (first, rest) ← classPrimitive? flags cs
  let rest := flags.skip rest
  match rest with
  | [] => none
  | '-' :: more =>
      match flags.skip more with
      | [] => none
      | ']' :: _ | '-' :: _ => (classItem? flags first).map fun set => (set, rest)
      | more => do
          let (last, rest) ← classPrimitive? flags more
          let low ← classLiteral? flags first
          let high ← classLiteral? flags last
          if low ≤ high then some (CodePoints.range low high, rest) else none
  | _ => (classItem? flags first).map fun set => (set, rest)

/-- Skips the hyphens that open a class; fuel is the number of characters left. -/
def leadingHyphens (flags : Flags) : Nat → ClassState → List Char → ClassState × List Char
  | 0, state, cs => (state, cs)
  | fuel + 1, state, cs =>
      match cs with
      | '-' :: rest => leadingHyphens flags fuel (state.push (CodePoints.single 45) 0) (flags.skip rest)
      | _ => (state, cs)

/-- What follows an opening bracket: a caret, hyphens and a closing bracket that stand for
themselves. -/
def classOpening (flags : Flags) (cs : List Char) : Bool × ClassState × List Char :=
  let (negated, cs) := match flags.skip cs with
    | '^' :: rest => (true, flags.skip rest)
    | cs => (false, cs)
  let (state, cs) := leadingHyphens flags cs.length {} cs
  match state.items, cs with
  | [], ']' :: rest => (negated, state.push (CodePoints.single 93) 0, flags.skip rest)
  | _, cs => (negated, state, cs)

/-- A name between colons after an opening bracket. -/
def asciiClass? (flags : Flags) (cs : List Char) : Option (CodePoints × List Char) :=
  match cs with
  | ':' :: rest =>
      let (negated, rest) := match rest with
        | '^' :: rest => (true, rest)
        | rest => (false, rest)
      let name := rest.takeWhile (· != ':')
      match rest.drop name.length with
      | ':' :: ']' :: rest => do
          let set ← asciiPoints? (String.ofList name)
          let set ← flags.permit? (Flags.negate negated (flags.fold set))
          some (set, rest)
      | _ => none
  | _ => none

mutual

/-- A class after its opening bracket: its set, its height and the rest; fuel is twice the number
of characters left. -/
def class? (flags : Flags) : Nat → List Char → Option ((CodePoints × Nat) × List Char)
  | 0, _ => none
  | fuel + 1, cs => do
      let (negated, state, cs) := classOpening flags cs
      let ((set, height), rest) ← classBody? flags fuel state cs
      let set ← flags.permit? (Flags.negate negated (flags.fold set))
      some ((set, height + 1), rest)

def classBody? (flags : Flags) : Nat → ClassState → List Char →
    Option ((CodePoints × Nat) × List Char)
  | 0, _, _ => none
  | fuel + 1, state, cs =>
      match flags.skip cs with
      | [] => none
      | ']' :: rest => some (state.value flags, rest)
      | '[' :: rest =>
          match asciiClass? flags rest with
          | some (set, rest) => classBody? flags fuel (state.push set 0) rest
          | none => do
              let ((set, height), rest) ← class? flags fuel rest
              classBody? flags fuel (state.push set height) rest
      | '&' :: '&' :: rest => classBody? flags fuel (state.operate flags .inter) rest
      | '-' :: '-' :: rest => classBody? flags fuel (state.operate flags .diff) rest
      | '~' :: '~' :: rest => classBody? flags fuel (state.operate flags .symmDiff) rest
      | cs => do
          let (set, rest) ← classRange? flags cs
          classBody? flags fuel (state.push set 0) rest

end

/-! Groups and repetitions -/

/-- Part of a sequence, with its height; only flags on their own cannot be repeated. -/
structure Piece where
  pattern : Pattern
  height : Nat
  repeatable : Bool := true

/-- Reads the flags of a group up to the colon or the bracket that ends them. `seen` are the
letters and the hyphen met so far. -/
def flagLetters? : List Char → Bool → List Char → Flags → Option (Flags × Bool × List Char)
  | [], _, _, _ => none
  | c :: rest, negated, seen, flags =>
      if c = ':' ∨ c = ')' then
        if seen.head? = some '-' then none
        else if c = ')' ∧ seen.isEmpty then none
        else some (flags, c == ')', rest)
      else if seen.contains c then none
      else
        let next (flags : Flags) := flagLetters? rest negated (c :: seen) flags
        match c with
        | '-' => flagLetters? rest true (c :: seen) flags
        | 'i' => next { flags with ignoreCase := !negated }
        | 'm' => next { flags with multiLine := !negated }
        | 's' => next { flags with dotAll := !negated }
        | 'U' => next { flags with swapGreed := !negated }
        | 'u' => next { flags with unicode := !negated }
        | 'R' => next { flags with crlf := !negated }
        | 'x' => next { flags with spaced := !negated }
        | _ => none

def isNameChar (first : Bool) (c : Char) : Bool :=
  let alphabetic := Unicode.Property.alphabetic.points.contains c.toNat
  if first then c == '_' || alphabetic
  else c == '_' || c == '.' || c == '[' || c == ']' || alphabetic ||
    (Unicode.Category.unions [.decimalNumber, .letterNumber, .otherNumber]).contains c.toNat

/-- The name of a group up to its closing bracket, unless it is taken. -/
def groupName? (names : List (List Char)) (cs : List Char) : Option (List Char × List Char) :=
  let name := cs.takeWhile (· != '>')
  match name, cs.drop name.length with
  | c :: more, '>' :: rest =>
      if isNameChar true c && more.all (isNameChar false) && !names.contains name then some (name, rest)
      else none
  | _, _ => none

/-- How a bracket opens. -/
inductive Opening where
  | group (flags : Flags) (name : Option (List Char)) (rest : List Char)
  | directive (flags : Flags) (rest : List Char)

def opening? (flags : Flags) (names : List (List Char)) (cs : List Char) : Option Opening :=
  match flags.skip cs with
  | '?' :: 'P' :: '<' :: rest =>
      (groupName? names rest).map fun (name, rest) => .group flags (some name) rest
  | '?' :: '<' :: '=' :: _ | '?' :: '<' :: '!' :: _ => none
  | '?' :: '<' :: rest =>
      (groupName? names rest).map fun (name, rest) => .group flags (some name) rest
  | '?' :: rest =>
      (flagLetters? rest false [] flags).map fun (flags, alone, rest) =>
        if alone then .directive flags rest else .group flags none rest
  | cs => some (.group flags none cs)

/-- A repetition count: digits with blanks around them, below `2 ^ 32`; none without digits. -/
def count? (flags : Flags) (cs : List Char) : Option (Option Nat × List Char) :=
  let cs := cs.dropWhile Unicode.isWhiteSpace
  let rec digits : Nat → List Char → List Char × List Char
    | 0, cs => ([], cs)
    | fuel + 1, cs =>
        match cs with
        | c :: rest =>
            if c.isDigit then
              let (ds, rest) := digits fuel (flags.skip rest)
              (c :: ds, rest)
            else ([], cs)
        | [] => ([], [])
  let (ds, rest) := digits cs.length cs
  let rest := rest.dropWhile Unicode.isWhiteSpace
  if ds.isEmpty then some (none, rest)
  else
    let value := Text.natural ds
    if value ≤ 4294967295 then some (some value, rest) else none

/-- The bounds of a counted repetition after its brace. -/
def bounds? (flags : Flags) (cs : List Char) : Option ((Nat × Option Nat) × List Char) := do
  let (least, rest) ← count? flags (flags.skip cs)
  match rest with
  | ',' :: rest =>
      match flags.skip rest with
      | '\x7d' :: rest => least.map fun least => ((least, none), rest)
      | rest => do
          let least ← least
          let (most, rest) ← count? flags rest
          let most ← most
          match rest with
          | '\x7d' :: rest => if least ≤ most then some ((least, some most), rest) else none
          | _ => none
  | '\x7d' :: rest => least.map fun least => ((least, some least), rest)
  | _ => none

/-- A question mark after a repetition changes only which match is preferred. -/
def skipLazy : List Char → List Char
  | '?' :: rest => rest
  | cs => cs

/-- Repeats the last piece. -/
def repeatLast? (least : Nat) (most : Option Nat) : List Piece → Option (List Piece)
  | piece :: before =>
      if piece.repeatable then
        some (⟨.repetition piece.pattern least most, piece.height + 1, true⟩ :: before)
      else none
  | [] => none

/-- The sequence of pieces, of which the last comes first. -/
def sequence (pieces : List Piece) : Piece :=
  match pieces with
  | [] => ⟨.empty, 0, true⟩
  | [piece] => piece
  | last :: before =>
      ⟨before.foldl (fun pattern piece => .seq piece.pattern pattern) last.pattern,
        1 + (pieces.map (·.height)).foldl max 0, true⟩

/-- The alternation of branches, of which the last comes first. -/
def alternation (branches : List Piece) : Piece :=
  match branches with
  | [] => ⟨.empty, 0, true⟩
  | [branch] => branch
  | last :: before =>
      ⟨before.foldl (fun pattern branch => .alt branch.pattern pattern) last.pattern,
        1 + (branches.map (·.height)).foldl max 0, true⟩

/-- The pattern of a primitive under the flags. -/
def primitive? (flags : Flags) : Primitive → Option Pattern
  | .literal c byte =>
      if ¬ flags.unicode ∧ byte ∧ 127 < c.toNat then none
      else some (.chars (flags.fold (CodePoints.single c.toNat)))
  | .set set => some (.chars set)
  | .look condition => some (.look condition)

def lineStart (flags : Flags) : Look :=
  if ¬ flags.multiLine then .textStart else if flags.crlf then .crlfStart else .lineStart

def lineEnd (flags : Flags) : Look :=
  if ¬ flags.multiLine then .textEnd else if flags.crlf then .crlfEnd else .lineEnd

/-- What a group has read: the flags at its end, the names taken, and the rest. -/
structure Reading where
  piece : Piece
  names : List (List Char)
  rest : List Char

/-- Reads branches up to a closing bracket or the end of the text; fuel is the number of
characters left. -/
def branches? : Nat → Flags → List (List Char) → List Piece → List Piece → List Char → Option Reading
  | 0, _, _, _, _, _ => none
  | fuel + 1, flags, names, branches, pieces, cs =>
      let push (piece : Piece) (rest : List Char) := branches? fuel flags names branches (piece :: pieces) rest
      let repeated (least : Nat) (most : Option Nat) (rest : List Char) :=
        (repeatLast? least most pieces).bind fun pieces =>
          branches? fuel flags names branches pieces (skipLazy rest)
      match flags.skip cs with
      | [] => some ⟨alternation (sequence pieces :: branches), names, []⟩
      | ')' :: rest => some ⟨alternation (sequence pieces :: branches), names, ')' :: rest⟩
      | '|' :: rest => branches? fuel flags names (sequence pieces :: branches) [] rest
      | '(' :: rest =>
          match opening? flags names rest with
          | none => none
          | some (.directive flags rest) =>
              branches? fuel flags names branches (⟨.empty, 0, false⟩ :: pieces) rest
          | some (.group inner name rest) =>
              match branches? fuel inner (name.toList ++ names) [] [] rest with
              | some ⟨piece, names, ')' :: rest⟩ =>
                  branches? fuel flags names branches
                    (⟨piece.pattern, piece.height + 1, true⟩ :: pieces) rest
              | _ => none
      | '[' :: rest =>
          match class? flags (2 * rest.length + 2) rest with
          | some ((set, height), rest) => push ⟨.chars set, height, true⟩ rest
          | none => none
      | '?' :: rest => repeated 0 (some 1) rest
      | '*' :: rest => repeated 0 none rest
      | '+' :: rest => repeated 1 none rest
      | '\x7b' :: rest =>
          match bounds? flags rest with
          | some ((least, most), rest) => repeated least most (flags.skip rest)
          | none => none
      | '.' :: rest => flags.anyPoints?.bind fun set => push ⟨.chars set, 0, true⟩ rest
      | '^' :: rest => push ⟨.look (lineStart flags), 0, true⟩ rest
      | '$' :: rest => push ⟨.look (lineEnd flags), 0, true⟩ rest
      | '\\' :: rest =>
          match escape? flags rest with
          | some (primitive, rest) =>
              (primitive? flags primitive).bind fun pattern => push ⟨pattern, 0, true⟩ rest
          | none => none
      | c :: rest =>
          (primitive? flags (.literal c false)).bind fun pattern => push ⟨pattern, 0, true⟩ rest

/-- The pattern of a text that an engine has room for. -/
def ofTextWithin? (hasRoom : Pattern → Bool) (text : String) : Option Pattern :=
  let cs := text.toList
  match branches? (2 * cs.length + 2) {} [] [] [] cs with
  | some ⟨piece, _, []⟩ =>
      if piece.height ≤ heightLimit && hasRoom piece.pattern then some piece.pattern else none
  | _ => none

/-- The pattern of a text, going by the estimate of its room. -/
def ofText? : String → Option Pattern := ofTextWithin? fun pattern => pattern.size ≤ sizeLimit

end BuildScheduler.Pattern
