import BuildScheduler.Json.Decode
import BuildScheduler.Time.Instant

/-!
# Build identifiers

An identifier is a 128-bit UUID, written in lower case with hyphens. A reading takes any case,
bare digits, braces and the URN form. New identifiers have version 7: milliseconds of the clock
first, so that they sort by time, then a count that no two of one supply share.
-/

namespace BuildScheduler

structure BuildId where
  bits : BitVec 128
deriving DecidableEq

namespace BuildId

instance : Inhabited BuildId := ⟨⟨0⟩⟩

/-! Text -/

/-- The hexadecimal digit at a place, counted from the left. -/
def digit (id : BuildId) (place : Nat) : Char :=
  Text.hexChar (id.bits.toNat / Nat.pow 16 (31 - place) % 16)

def digits (id : BuildId) : List Char := (List.range 32).map id.digit

/-- Groups of eight, four, four, four and twelve digits. -/
def hyphenate (ds : List Char) : List Char :=
  ds.take 8 ++ '-' :: (ds.drop 8).take 4 ++ '-' :: (ds.drop 12).take 4 ++
    '-' :: (ds.drop 16).take 4 ++ '-' :: ds.drop 20

def toText (id : BuildId) : String := String.ofList (hyphenate id.digits)

/-- The identifier of 32 hexadecimal digits. -/
def ofDigits? (ds : List Char) : Option BuildId :=
  if ds.length = 32 then
    (ds.mapM Text.hexValue?).map fun values =>
      ⟨BitVec.ofNat 128 (Text.hexNatural values)⟩
  else none

/-- The digits of the hyphenated form. -/
def unhyphenate? (cs : List Char) : Option (List Char) :=
  if cs.length = 36 ∧ cs[8]? = some '-' ∧ cs[13]? = some '-' ∧ cs[18]? = some '-' ∧
      cs[23]? = some '-' then
    some (cs.take 8 ++ (cs.drop 9).take 4 ++ (cs.drop 14).take 4 ++ (cs.drop 19).take 4 ++ cs.drop 24)
  else none

def ofHyphenated? (cs : List Char) : Option BuildId := (unhyphenate? cs).bind ofDigits?

def ofChars? (cs : List Char) : Option BuildId :=
  if cs.length = 32 then ofDigits? cs
  else if cs.length = 36 then ofHyphenated? cs
  else if cs.length = 38 ∧ cs.head? = some '\x7b' ∧ cs.getLast? = some '\x7d' then
    ofHyphenated? ((cs.drop 1).take 36)
  else if cs.length = 45 ∧ (cs.take 9).map Char.toLower = "urn:uuid:".toList then
    ofHyphenated? (cs.drop 9)
  else none

def ofText? (text : String) : Option BuildId := ofChars? text.toList

/-- The version digit. -/
def version (id : BuildId) : Nat := id.bits.toNat / twoTo 76 % 16

/-! New identifiers -/

/-- The identifier of version 7 with a time in milliseconds and a count. -/
def ofTimeAndCount (millis count : Nat) : BuildId :=
  ⟨BitVec.ofNat 128 (millis % twoTo 48 * twoTo 80 + 7 * twoTo 76 +
    count / twoTo 62 % twoTo 12 * twoTo 64 + 2 * twoTo 62 + count % twoTo 62)⟩

/-! JSON -/

def wanted : String := "a formatted UUID string"

def decode : Json.Decoder BuildId
  | .str text =>
      match ofText? text with
      | some id => .ok id
      | none => .error (.invalidValue (.str text) wanted)
  | node => .error (node.mismatch wanted)

def toJson (id : BuildId) : Json := .str id.toText

end BuildId

/-- A source of identifiers with those it has given out, the last one first. -/
structure IdSupply where
  given : List BuildId := []
deriving DecidableEq

/-- The next identifier, at a time in milliseconds. -/
def IdSupply.next (supply : IdSupply) (millis : Nat) : BuildId × IdSupply :=
  let id := BuildId.ofTimeAndCount millis supply.given.length
  (id, ⟨id :: supply.given⟩)

end BuildScheduler
