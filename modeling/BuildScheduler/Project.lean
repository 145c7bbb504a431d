import BuildScheduler.Error
import BuildScheduler.Json.Decode
import BuildScheduler.Pattern.Parser

/-!
# Projects

A project names the image it is built in, the refs that are built, and the sidecars of its
builds. A descriptor holds a pattern only together with the text it was read from; an empty
text is no pattern, and without a pattern every ref is managed.
-/

namespace BuildScheduler

/-- The text of a pattern with what it was read as. -/
structure RefPattern where
  text : String
  pattern : Pattern
  read_text : Pattern.ofText? text = some pattern

namespace RefPattern

/-- Reads the text of a pattern. -/
def ofText? (text : String) : Option RefPattern :=
  match h : Pattern.ofText? text with
  | some pattern => some ⟨text, pattern, h⟩
  | none => none

theorem ofText?_text {text : String} {pattern : RefPattern} (h : ofText? text = some pattern) :
    pattern.text = text := by
  unfold ofText? at h
  split at h
  · cases h; rfl
  · cases h

/-- A pattern is its text. -/
theorem ext {a b : RefPattern} (h : a.text = b.text) : a = b := by
  obtain ⟨t, p, hp⟩ := a
  obtain ⟨u, q, hq⟩ := b
  cases h
  have : p = q := Option.some.inj (hp.symm.trans hq)
  cases this
  rfl

instance : DecidableEq RefPattern := fun a b =>
  if h : a.text = b.text then isTrue (ext h) else isFalse fun e => h (e ▸ rfl)

def matchesRef (pattern : RefPattern) (ref : String) : Bool := pattern.pattern.matchesText ref

end RefPattern

/-- The image of a project's builds and the refs that are built. -/
structure Descriptor where
  image : String
  managedRef : Option RefPattern := none
deriving DecidableEq

namespace Descriptor

/-- The cause for refusing the text of a pattern. -/
def patternReason (text : String) : String := "managed ref pattern " ++ text

/-- A descriptor with the pattern of a text, unless the text is empty. -/
def make (image : String) (text : Option String) : Result Descriptor :=
  match text with
  | none => .ok { image }
  | some text =>
      if text = "" then .ok { image }
      else
        match RefPattern.ofText? text with
        | some pattern => .ok { image, managedRef := some pattern }
        | none => .error (.invalidInput (patternReason text))

/-- Whether a ref is built: a pattern matches anywhere in it. -/
def isManaged (descriptor : Descriptor) (ref : String) : Bool :=
  descriptor.managedRef.all (·.matchesRef ref)

/-- What a reading of a descriptor collects. -/
structure Parts where
  image : String := ""
  pattern : Option String := none

def record : Json.Record Parts where
  title := "struct RawDescriptor"
  blank := {}
  fields := [
    ⟨"buildImage", .required,
      fun node parts => do pure { parts with image := ← Json.Decode.string node }⟩,
    ⟨"managedRefRegex", .defaulted, fun node parts => do
      pure { parts with pattern := ← Json.Decode.option Json.Decode.string node }⟩]

def decode (node : Json.Node) : Except Json.ReadError Descriptor := do
  let parts ← record.decode node
  match make parts.image parts.pattern with
  | .ok descriptor => .ok descriptor
  | .error _ => .error (.badPattern (parts.pattern.getD ""))

def toJson (descriptor : Descriptor) : Json :=
  Json.object <|
    ("buildImage", .str descriptor.image) ::
    (descriptor.managedRef.map fun pattern => ("managedRefRegex", .str pattern.text)).toList

end Descriptor

structure Project where
  team : String
  name : String
  descriptor : Descriptor
  /-- Container specs as JSON texts. -/
  sidecars : List String := []
deriving DecidableEq

namespace Project

instance : Inhabited Project := ⟨{ team := "", name := "", descriptor := { image := "" } }⟩

/-- Team and name, the key of the catalog. -/
def key (project : Project) : String := project.team ++ "/" ++ project.name

def record : Json.Record Project where
  title := "struct Project"
  blank := default
  fields := [
    ⟨"team", .required,
      fun node project => do pure { project with team := ← Json.Decode.string node }⟩,
    ⟨"project", .required,
      fun node project => do pure { project with name := ← Json.Decode.string node }⟩,
    ⟨"descriptor", .required,
      fun node project => do pure { project with descriptor := ← Descriptor.decode node }⟩,
    ⟨"sidecars", .defaulted, fun node project => do
      pure { project with sidecars := ← Json.Decode.list Json.Decode.string node }⟩]

def decode : Json.Decoder Project := record.decode

/-- An empty list of sidecars is left out. -/
def toJson (project : Project) : Json :=
  Json.object <|
    [("team", .str project.team), ("project", .str project.name),
      ("descriptor", project.descriptor.toJson)] ++
    (if project.sidecars.isEmpty then [] else [("sidecars", .arr (project.sidecars.map .str))])

end Project

/-! The catalog -/

/-- Projects in the order they were given; of several with one key the last one counts. -/
structure Catalog where
  projects : List Project
deriving DecidableEq

namespace Catalog

def ofList (projects : List Project) : Catalog := ⟨projects⟩

def find? (catalog : Catalog) (key : String) : Option Project :=
  catalog.projects.reverse.find? (·.key == key)

/-- The keys, each once. -/
def keys (catalog : Catalog) : List String := (catalog.projects.map Project.key).eraseDups

def size (catalog : Catalog) : Nat := catalog.keys.length

end Catalog

end BuildScheduler
