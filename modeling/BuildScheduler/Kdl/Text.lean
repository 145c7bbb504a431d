import BuildScheduler.Kdl.Characters
import BuildScheduler.Text.Digits

/-!
# KDL strings

A string is quoted, raw or an identifier. A quoted or raw string between triple quotes spans
lines: the blanks before its closing quotes are taken off every line, lines of blanks alone
become empty, and line ends become line feeds.
-/

namespace BuildScheduler.Kdl.Text

/-- A string and the rest. -/
abbrev Taken := List Char × List Char

/-! Escapes -/

/-- Skips the blanks and line ends that an escape swallows. -/
def skipGap (cs : List Char) : List Char := cs.dropWhile fun c => isBlank c || isLineEnd c

/-- One to six hexadecimal digits in braces. -/
def unicodeEscape? (cs : List Char) : Option (Char × List Char) :=
  match cs with
  | '\x7b' :: rest =>
      let ds := rest.takeWhile fun c => (BuildScheduler.Text.hexValue? c).isSome
      match rest.drop ds.length with
      | '\x7d' :: rest =>
          let value := (ds.filterMap BuildScheduler.Text.hexValue?).foldl (fun n d => 16 * n + d) 0
          if 1 ≤ ds.length ∧ ds.length ≤ 6 ∧ value.isValidChar then some (Char.ofNat value, rest)
          else none
      | _ => none
  | _ => none

def simpleEscape? : Char → Option Char
  | '"' => some '"'
  | '\\' => some '\\'
  | 'b' => some '\x08'
  | 'f' => some '\x0c'
  | 'n' => some '\n'
  | 'r' => some '\r'
  | 't' => some '\t'
  | 's' => some ' '
  | _ => none

/-- What an escape after its backslash stands for, and the rest. -/
def escape? (cs : List Char) : Option (List Char × List Char) :=
  match cs with
  | [] => none
  | 'u' :: rest => (unicodeEscape? rest).map fun (c, rest) => ([c], rest)
  | c :: rest =>
      if isBlank c || isLineEnd c then some ([], skipGap rest)
      else (simpleEscape? c).map fun c => ([c], rest)

/-- Replaces escapes; fuel is the number of characters left. -/
def unescape? : Nat → List Char → Option (List Char)
  | 0, cs => if cs.isEmpty then some [] else none
  | fuel + 1, cs =>
      match cs with
      | [] => some []
      | '\\' :: rest => do
          let (text, rest) ← escape? rest
          let more ← unescape? fuel rest
          some (text ++ more)
      | c :: rest => (unescape? fuel rest).map (c :: ·)

/-- Removes the escapes that swallow blanks; fuel is the number of characters left. -/
def closeGaps : Nat → List Char → List Char
  | 0, _ => []
  | fuel + 1, cs =>
      match cs with
      | [] => []
      | '\\' :: c :: rest =>
          if isBlank c || isLineEnd c then closeGaps fuel (skipGap rest)
          else '\\' :: c :: closeGaps fuel rest
      | c :: rest => c :: closeGaps fuel rest

/-! Lines -/

/-- The lines of a text; fuel is the number of characters left. -/
def linesAux : Nat → List Char → List Char → List (List Char)
  | 0, line, _ => [line.reverse]
  | fuel + 1, line, cs =>
      match lineEnd? cs, cs with
      | some rest, _ => line.reverse :: linesAux fuel [] rest
      | none, c :: rest => linesAux fuel (c :: line) rest
      | none, [] => [line.reverse]

def linesOf (cs : List Char) : List (List Char) := linesAux (cs.length + 1) [] cs

/-- Takes the indent off a line. -/
def unindent? (indent line : List Char) : Option (List Char) :=
  if line.all isBlank then some []
  else if indent.isPrefixOf line then some (line.drop indent.length)
  else none

/-- The lines between triple quotes without the indent of the last one. -/
def dedent? (body : List Char) : Option (List (List Char)) :=
  match linesOf body with
  | [] :: rest =>
      match rest.reverse with
      | indent :: lines =>
          if indent.all isBlank then lines.reverse.mapM (unindent? indent) else none
      | [] => none
  | _ => none

def joinLines (lines : List (List Char)) : List Char := ['\n'].intercalate lines

/-! Quoted strings -/

/-- The characters up to the closing quote of a line, escapes as they stand; fuel is the number of
characters left. -/
def lineBody? : Nat → List Char → Option Taken
  | 0, _ => none
  | fuel + 1, cs =>
      match cs with
      | [] => none
      | '"' :: rest => some ([], rest)
      | '\\' :: c :: rest =>
          if isBlank c || isLineEnd c then lineBody? fuel (skipGap rest)
          else (lineBody? fuel rest).map fun (body, rest) => ('\\' :: c :: body, rest)
      | c :: rest =>
          if isLineEnd c || isDisallowed c then none
          else (lineBody? fuel rest).map fun (body, rest) => (c :: body, rest)

/-- The characters up to the closing triple quotes, escapes as they stand. -/
def blockBody? : List Char → Option Taken
  | [] => none
  | '"' :: '"' :: '"' :: rest => some ([], rest)
  | '\\' :: c :: rest => (blockBody? rest).map fun (body, rest) => ('\\' :: c :: body, rest)
  | c :: rest =>
      if isDisallowed c then none else (blockBody? rest).map fun (body, rest) => (c :: body, rest)

/-- A quoted string after its first quote. -/
def quoted? (cs : List Char) : Option Taken :=
  match cs with
  | '"' :: '"' :: rest => do
      let (body, rest) ← blockBody? rest
      let lines ← dedent? (closeGaps (body.length + 1) body)
      let lines ← lines.mapM fun line => unescape? (line.length + 1) line
      some (joinLines lines, rest)
  | cs => do
      let (body, rest) ← lineBody? (cs.length + 1) cs
      let text ← unescape? (body.length + 1) body
      some (text, rest)

/-! Raw strings -/

/-- The characters up to a closing mark; line ends only when `spans`. -/
def rawBody? (spans : Bool) (closing : List Char) : List Char → Option Taken
  | [] => none
  | c :: rest =>
      if closing.isPrefixOf (c :: rest) then some ([], (c :: rest).drop closing.length)
      else if isDisallowed c || (!spans && isLineEnd c) then none
      else (rawBody? spans closing rest).map fun (body, rest) => (c :: body, rest)

/-- A raw string after its number signs. -/
def raw? (signs : Nat) (cs : List Char) : Option Taken :=
  let closing (quotes : Nat) := List.replicate quotes '"' ++ List.replicate signs '#'
  match cs with
  | '"' :: '"' :: '"' :: rest => do
      let (body, rest) ← rawBody? true (closing 3) rest
      let lines ← dedent? body
      some (joinLines lines, rest)
  | '"' :: rest => rawBody? false (closing 1) rest
  | _ => none

/-! Identifiers -/

/-- Words that are no identifiers. -/
def reservedWords : List String := ["true", "false", "null", "inf", "-inf", "nan"]

def isSign (c : Char) : Bool := c == '+' || c == '-'

/-- Whether characters form an identifier: none that a number could begin with. -/
def isIdentifier (cs : List Char) : Bool :=
  let afterSign := match cs with
    | c :: rest => if isSign c then rest else cs
    | [] => []
  let afterPoint := match afterSign with
    | '.' :: rest => rest
    | cs => cs
  !cs.isEmpty && !afterSign.head?.any Char.isDigit && !afterPoint.head?.any Char.isDigit &&
    !reservedWords.contains (String.ofList cs)

def identifier? (cs : List Char) : Option Taken :=
  let name := cs.takeWhile isIdentifierChar
  if isIdentifier name then some (name, cs.drop name.length) else none

/-- A string that starts here. -/
def string? (cs : List Char) : Option Taken :=
  match cs with
  | '"' :: rest => quoted? rest
  | '#' :: rest =>
      let signs := rest.takeWhile (· == '#')
      raw? (signs.length + 1) (rest.drop signs.length)
  | cs => identifier? cs

end BuildScheduler.Kdl.Text
