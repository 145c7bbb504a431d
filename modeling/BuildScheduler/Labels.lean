import BuildScheduler.Event

/-!
# Labels

Labels are a map of names to values in the order of the names. A label value holds neither a
point nor a slash: `asLabel` puts an underscore in place of each.
-/

namespace BuildScheduler

abbrev Labels := List (String × String)

namespace Labels

/-- Writes one label: in place of the one of that name, else at its place in the order. -/
def insert (name value : String) : Labels → Labels
  | [] => [(name, value)]
  | (other, held) :: rest =>
      if name < other then (name, value) :: (other, held) :: rest
      else if name = other then (name, value) :: rest
      else (other, held) :: insert name value rest

/-- The last label of each name. -/
def ofList (labels : List (String × String)) : Labels :=
  labels.foldl (fun held label => insert label.1 label.2 held) []

def get? (labels : Labels) (name : String) : Option String := labels.lookup name

def decode (node : Json.Node) : Except Json.ReadError Labels :=
  (Json.Decode.entries Json.Decode.string node).map ofList

def toJson (labels : Labels) : Json :=
  Json.object (labels.map fun label => (label.1, .str label.2))

end Labels

/-- The character that stands for one in a label value. -/
def labelChar (c : Char) : Char := if c = '.' ∨ c = '/' then '_' else c

/-- A text as a label value. -/
def asLabel (text : String) : String := text.map labelChar

/-- The value of the `type` label of every build pod. -/
def buildPodType : String := "decap-build"

/-- The selector of build pods. -/
def buildPodSelector : String := "type=" ++ buildPodType

/-- The labels of the pod of an event. -/
def BuildEvent.labels (event : BuildEvent) : Labels :=
  Labels.ofList [
    ("type", buildPodType),
    ("team", asLabel event.team),
    ("project", asLabel event.project),
    ("branch", asLabel event.ref),
    ("lockname", asLabel event.lockName)]

end BuildScheduler
