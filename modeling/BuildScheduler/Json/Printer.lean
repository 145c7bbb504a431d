import BuildScheduler.Json.Basic
import BuildScheduler.Text.Digits

/-!
# Writing JSON texts

The compact text of a value: no blanks, members in the order they stand, and in strings only
the quote, the backslash and the control characters below the space as escapes.
-/

namespace BuildScheduler.Json.Printer

def escape (c : Char) : List Char :=
  match c with
  | '"' => ['\\', '"']
  | '\\' => ['\\', '\\']
  | '\x08' => ['\\', 'b']
  | '\x0c' => ['\\', 'f']
  | '\n' => ['\\', 'n']
  | '\r' => ['\\', 'r']
  | '\t' => ['\\', 't']
  | c =>
      if c.toNat < 0x20 then ['\\', 'u', '0', '0', Text.hexChar (c.toNat / 16), Text.hexChar (c.toNat % 16)]
      else [c]

def string (text : String) : List Char :=
  '"' :: (text.toList.flatMap escape ++ ['"'])

mutual

def value : Json → List Char
  | .null => "null".toList
  | .bool true => "true".toList
  | .bool false => "false".toList
  | .int n => (toString n).toList
  | .double x => x.render.toList
  | .str text => string text
  | .arr [] => ['[', ']']
  | .arr (item :: rest) => '[' :: (value item ++ moreItems rest)
  | .obj [] => ['{', '}']
  | .obj ((name, v) :: rest) => '{' :: (string name ++ ':' :: (value v ++ moreMembers rest))

def moreItems : List Json → List Char
  | [] => [']']
  | item :: rest => ',' :: (value item ++ moreItems rest)

def moreMembers : List (String × Json) → List Char
  | [] => ['}']
  | (name, v) :: rest => ',' :: (string name ++ ':' :: (value v ++ moreMembers rest))

end

end Printer

/-- The compact text of a value. -/
def render (value : Json) : String := String.ofList (Printer.value value)

end BuildScheduler.Json
