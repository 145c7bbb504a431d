import BuildScheduler.Json.Number

/-!
# Reading JSON texts

`Document.ofText` meets a text as a tree. What a text may hold is the usual grammar; a
compound is `deep` when 127 others are around it.
-/

namespace BuildScheduler.Json.Reader

def isSpace (c : Char) : Bool := c == ' ' || c == '\n' || c == '\t' || c == '\r'

def skipSpace (cs : List Char) : List Char := cs.dropWhile isSpace

/-- What is wrong with a text that goes on with `cs`. -/
def wrong : List Char → Fault
  | [] => .truncated
  | _ :: _ => .malformed

/-- Reads the rest of a word. -/
def word : List Char → List Char → Except Fault (List Char)
  | [], rest => .ok rest
  | _ :: _, [] => .error .truncated
  | c :: cs, d :: rest => if c = d then word cs rest else .error .malformed

/-- Four hexadecimal digits. -/
def codeUnit : List Char → Except Fault (Nat × List Char)
  | a :: b :: c :: d :: rest =>
      match Text.hexValue? a, Text.hexValue? b, Text.hexValue? c, Text.hexValue? d with
      | some a, some b, some c, some d => .ok (((a * 16 + b) * 16 + c) * 16 + d, rest)
      | _, _, _, _ => .error .malformed
  | _ => .error .truncated

def simpleEscape? : Char → Option Char
  | '"' => some '"'
  | '\\' => some '\\'
  | '/' => some '/'
  | 'b' => some '\x08'
  | 'f' => some '\x0c'
  | 'n' => some '\n'
  | 'r' => some '\r'
  | 't' => some '\t'
  | _ => none

/-- A piece of a string: a character, or half of a surrogate pair. -/
abbrev Piece := Option Char

def isLeading (unit : Nat) : Bool := 0xD800 ≤ unit && unit < 0xDC00

def isTrailing (unit : Nat) : Bool := 0xDC00 ≤ unit && unit < 0xE000

/-- The character of one code unit that stands alone. -/
def unitPiece (unit : Nat) : Piece :=
  if isLeading unit || isTrailing unit then none else some (Char.ofNat unit)

/-- The pieces of a string up to its closing quote, and the rest; fuel is the number of
characters left. -/
def pieces : Nat → List Char → Except Fault (List Piece × List Char)
  | 0, _ => .error .truncated
  | fuel + 1, cs =>
      match cs with
      | [] => .error .truncated
      | '"' :: rest => .ok ([], rest)
      | '\\' :: 'u' :: rest => do
          let (unit, rest) ← codeUnit rest
          match isLeading unit, rest with
          | true, '\\' :: 'u' :: more => do
              let (second, after) ← codeUnit more
              if isTrailing second then
                let (tail, rest) ← pieces fuel after
                pure (some (Char.ofNat (0x10000 + (unit - 0xD800) * 0x400 + (second - 0xDC00))) :: tail,
                  rest)
              else
                let (tail, rest) ← pieces fuel rest
                pure (none :: tail, rest)
          | _, _ => do
              let (tail, rest) ← pieces fuel rest
              pure (unitPiece unit :: tail, rest)
      | ['\\'] => .error .truncated
      | '\\' :: c :: rest =>
          match simpleEscape? c with
          | none => .error .malformed
          | some c => do
              let (tail, rest) ← pieces fuel rest
              pure (some c :: tail, rest)
      | c :: rest =>
          if c.toNat < 0x20 then .error .malformed
          else do
            let (tail, rest) ← pieces fuel rest
            pure (some c :: tail, rest)

/-- The text of pieces that are all characters. -/
def joinPieces (ps : List Piece) : Option String := (ps.mapM id).map String.ofList

/-- A string after its opening quote: its text unless it is spoiled, and the rest. -/
def string (cs : List Char) : Except Fault (Option String × List Char) := do
  let (ps, rest) ← pieces (cs.length + 1) cs
  pure (joinPieces ps, rest)

/-- Marks a compound that stands inside 127 others. -/
def atDepth (depth : Nat) (node : Node) : Node := if 127 ≤ depth then .deep node else node

/-- A node, and the rest of the text unless a fault has ended it. -/
abbrev Step (α : Type) := α × Option (List Char)

def ofWord (text : String) (node : Node) (rest : List Char) : Step Node :=
  match word text.toList rest with
  | .ok rest => (node, some rest)
  | .error cause => (.fault cause, none)

mutual

/-- One value; fuel is twice the number of characters left, as a compound takes two calls for
its bracket. -/
def value : Nat → Nat → List Char → Step Node
  | 0, _, _ => (.fault .truncated, none)
  | fuel + 1, depth, cs =>
      match skipSpace cs with
      | [] => (.fault .truncated, none)
      | 'n' :: rest => ofWord "ull" .null rest
      | 't' :: rest => ofWord "rue" (.bool true) rest
      | 'f' :: rest => ofWord "alse" (.bool false) rest
      | '"' :: rest =>
          match string rest with
          | .error cause => (.fault cause, none)
          | .ok (none, rest) => (.spoiled, some rest)
          | .ok (some text, rest) => (.str text, some rest)
      | '[' :: rest =>
          match skipSpace rest with
          | ']' :: rest => (atDepth depth (.arr [] none), some rest)
          | rest =>
              let (items, tail, rest) := items fuel (depth + 1) rest
              (atDepth depth (.arr items tail), rest)
      | '{' :: rest =>
          match skipSpace rest with
          | '}' :: rest => (atDepth depth (.obj [] none), some rest)
          | rest =>
              let (members, tail, rest) := members fuel (depth + 1) rest
              (atDepth depth (.obj members tail), rest)
      | c :: rest =>
          if c = '-' ∨ Text.isDigit c then
            match Number.parts (c :: rest) with
            | .error cause => (.fault cause, none)
            | .ok (parts, rest) => (Number.node parts, some rest)
          else (.fault .malformed, none)

/-- The items from here to the closing bracket. -/
def items : Nat → Nat → List Char → List Node × Option Fault × Option (List Char)
  | 0, _, _ => ([], some .truncated, none)
  | fuel + 1, depth, cs =>
      match skipSpace cs with
      | [] => ([], some .truncated, none)
      | ']' :: _ => ([], some .malformed, none)
      | cs =>
          match value fuel depth cs with
          | (node, none) => ([node], none, none)
          | (node, some rest) =>
              match skipSpace rest with
              | ']' :: rest => ([node], none, some rest)
              | ',' :: rest =>
                  let (nodes, tail, rest) := items fuel depth rest
                  (node :: nodes, tail, rest)
              | rest => ([node], some (wrong rest), none)

/-- The members from here to the closing brace. -/
def members : Nat → Nat → List Char → List (Option String × Node) × Option Fault × Option (List Char)
  | 0, _, _ => ([], some .truncated, none)
  | fuel + 1, depth, cs =>
      match skipSpace cs with
      | '"' :: rest =>
          match string rest with
          | .error cause => ([], some cause, none)
          | .ok (name, rest) =>
              match skipSpace rest with
              | ':' :: rest =>
                  match value fuel depth rest with
                  | (node, none) => ([(name, node)], none, none)
                  | (node, some rest) =>
                      match skipSpace rest with
                      | '}' :: rest => ([(name, node)], none, some rest)
                      | ',' :: rest =>
                          let (more, tail, rest) := members fuel depth rest
                          ((name, node) :: more, tail, rest)
                      | rest => ([(name, node)], some (wrong rest), none)
              | rest => ([(name, .fault (wrong rest))], none, none)
      | rest => ([], some (wrong rest), none)

end

end Reader

/-- The text as met. -/
def Document.ofText (text : String) : Document :=
  let cs := text.toList
  match Reader.value (2 * cs.length + 2) 0 cs with
  | (root, none) => ⟨root, none⟩
  | (root, some rest) =>
      match Reader.skipSpace rest with
      | [] => ⟨root, none⟩
      | _ :: _ => ⟨root, some .malformed⟩

/-- Reads a text with a decoder. -/
def readText (decode : Node → Except ReadError α) (text : String) : Except ReadError α :=
  (Document.ofText text).read decode

end BuildScheduler.Json
