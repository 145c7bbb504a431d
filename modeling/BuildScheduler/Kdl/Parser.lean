import BuildScheduler.Kdl.Number
import BuildScheduler.Kdl.Text

/-!
# Reading KDL documents

The grammar is that of KDL 2. A mark of a slash and a hyphen takes out the node, the entry or
the children after it, which still have to be well formed.
-/

namespace BuildScheduler.Kdl

/-! Blanks and comments -/

/-- The rest after a comment that is `depth` levels open. -/
def blockComment? : Nat → List Char → Option (List Char)
  | _, [] => none
  | depth, '*' :: '/' :: rest => if depth ≤ 1 then some rest else blockComment? (depth - 1) rest
  | depth, '/' :: '*' :: rest => blockComment? (depth + 1) rest
  | depth, _ :: rest => blockComment? depth rest

/-- The rest of a line up to its end. -/
def skipLine (cs : List Char) : List Char := cs.dropWhile (!isLineEnd ·)

/-- Skips blanks and block comments; none when a comment stays open. Fuel is the number of
characters left. -/
def skipBlanks? : Nat → List Char → Option (List Char)
  | 0, cs => some cs
  | fuel + 1, cs =>
      match cs with
      | '/' :: '*' :: rest => (blockComment? 1 rest).bind (skipBlanks? fuel)
      | c :: rest => if isBlank c then skipBlanks? fuel rest else some cs
      | [] => some []

/-- The rest after a line that is continued: a backslash, blanks, and a comment or a line end. -/
def continuation? (cs : List Char) : Option (List Char) := do
  let rest ← skipBlanks? cs.length cs
  match rest with
  | [] => some []
  | '/' :: '/' :: comment =>
      let rest := skipLine comment
      some ((lineEnd? rest).getD rest)
  | rest => lineEnd? rest

/-- Skips what may stand between the parts of a node. Fuel is the number of characters left. -/
def skipNodeSpace? : Nat → List Char → Option (List Char)
  | 0, cs => some cs
  | fuel + 1, cs => do
      let rest ← skipBlanks? cs.length cs
      match rest with
      | '\\' :: more => do
          let rest ← continuation? more
          skipNodeSpace? fuel rest
      | rest => some rest

def nodeSpace? (cs : List Char) : Option (List Char) := skipNodeSpace? (cs.length + 1) cs

/-- Skips what may stand between nodes. Fuel is the number of characters left. -/
def skipLineSpace? : Nat → List Char → Option (List Char)
  | 0, cs => some cs
  | fuel + 1, cs => do
      let rest ← nodeSpace? cs
      match rest with
      | '/' :: '/' :: comment => skipLineSpace? fuel (skipLine comment)
      | rest =>
          match lineEnd? rest with
          | some rest => skipLineSpace? fuel rest
          | none => some rest

def lineSpace? (cs : List Char) : Option (List Char) := skipLineSpace? (cs.length + 1) cs

/-! Values -/

/-- A type annotation, if one starts here, and the blanks after it. -/
def skipAnnotation? (cs : List Char) : Option (List Char) :=
  match cs with
  | '(' :: rest => do
      let rest ← nodeSpace? rest
      let (_, rest) ← Text.string? rest
      let rest ← nodeSpace? rest
      match rest with
      | ')' :: rest => nodeSpace? rest
      | _ => none
  | cs => some cs

/-- Words after a number sign. -/
def keywords : List (String × Value) :=
  [("true", .bool true), ("false", .bool false), ("null", .null), ("inf", .real), ("-inf", .real),
    ("nan", .real)]

def keyword? (cs : List Char) : Option (Value × List Char) :=
  let word := cs.takeWhile isIdentifierChar
  (keywords.lookup (String.ofList word)).map fun value => (value, cs.drop word.length)

/-- A value without annotation. -/
def plainValue? (cs : List Char) : Option (Value × List Char) :=
  let text := (Text.string? cs).map fun (text, rest) => (Value.str (String.ofList text), rest)
  match cs with
  | '#' :: c :: rest => if c = '#' ∨ c = '"' then text else keyword? (c :: rest)
  | cs => if Number.starts cs then Number.number? cs else text

def value? (cs : List Char) : Option (Value × List Char) := do
  let rest ← skipAnnotation? cs
  plainValue? rest

/-- An entry: a string before an equals sign names a property. -/
def entry? (cs : List Char) : Option (Entry × List Char) := do
  let (value, rest) ← value? cs
  match cs, value with
  | '(' :: _, _ => some ({ value }, rest)
  | _, .str name => do
      let after ← nodeSpace? rest
      match after with
      | '=' :: after => do
          let after ← nodeSpace? after
          let (value, rest) ← value? after
          some ({ name := some name, value }, rest)
      | _ => some ({ value }, rest)
  | _, _ => some ({ value }, rest)

/-! Nodes -/

/-- How far a node is: its entries so far, the last one first, and its children once they were
met; after children, taken out or not, no entry may follow. -/
structure Partial where
  name : String
  entries : List Entry := []
  children : Option (List Node) := none
  closed : Bool := false

def Partial.node (part : Partial) : Node := .mk part.name part.entries.reverse (part.children.getD [])

/-- The rest after the end of a node: a line end, a semicolon, or a place where the node may end
by itself. -/
def terminator? (cs : List Char) : Option (List Char) :=
  match cs with
  | [] => some []
  | ';' :: rest => some rest
  | '\x7d' :: rest => some ('\x7d' :: rest)
  | '/' :: '/' :: rest => some ('/' :: '/' :: rest)
  | cs => lineEnd? cs

mutual

/-- Nodes up to a closing brace or the end of the text; fuel is twice the number of characters
left. -/
def nodes? : Nat → List Char → Option (List Node × List Char)
  | 0, _ => none
  | fuel + 1, cs => do
      let cs ← lineSpace? cs
      match cs with
      | [] => some ([], [])
      | '\x7d' :: rest => some ([], '\x7d' :: rest)
      | '/' :: '-' :: rest => do
          let rest ← lineSpace? rest
          let (_, rest) ← node? fuel rest
          nodes? fuel rest
      | cs => do
          let (node, rest) ← node? fuel cs
          let (more, rest) ← nodes? fuel rest
          some (node :: more, rest)

/-- A node with what ends it. -/
def node? : Nat → List Char → Option (Node × List Char)
  | 0, _ => none
  | fuel + 1, cs => do
      let cs ← skipAnnotation? cs
      let (name, rest) ← Text.string? cs
      parts? fuel { name := String.ofList name } rest

/-- The entries and the children of a node. Blanks stand before all but the children. -/
def parts? : Nat → Partial → List Char → Option (Node × List Char)
  | 0, _, _ => none
  | fuel + 1, part, cs => do
      let rest ← nodeSpace? cs
      let apart := rest.length != cs.length
      match rest with
      | '/' :: '-' :: rest =>
          if !apart then none
          else do
            let rest ← lineSpace? rest
            match rest with
            | '\x7b' :: rest => do
                let (_, rest) ← children? fuel rest
                parts? fuel { part with closed := true } rest
            | rest =>
                if part.closed then none
                else do
                  let (_, rest) ← entry? rest
                  parts? fuel part rest
      | '\x7b' :: rest =>
          if part.children.isSome then none
          else do
            let (children, rest) ← children? fuel rest
            parts? fuel { part with children := some children, closed := true } rest
      | rest =>
          match terminator? rest with
          | some rest => some (part.node, rest)
          | none =>
              if part.closed || !apart then none
              else do
                let (entry, rest) ← entry? rest
                parts? fuel { part with entries := entry :: part.entries } rest

/-- Children after their opening brace. -/
def children? : Nat → List Char → Option (List Node × List Char)
  | 0, _ => none
  | fuel + 1, cs => do
      let (nodes, rest) ← nodes? fuel cs
      match rest with
      | '\x7d' :: rest => some (nodes, rest)
      | _ => none

end

/-- The document of a text, if the text is one. -/
def parse (text : String) : Option Document :=
  let cs := match text.toList with
    | '\uFEFF' :: rest => rest
    | cs => cs
  match nodes? (4 * cs.length + 4) cs with
  | some (nodes, []) => some nodes
  | _ => none

end BuildScheduler.Kdl
