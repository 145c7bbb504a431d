import BuildScheduler.Proofs.Config.Accepted

/-!
# Values of another type

A setting takes a text or an integer. Where it has to be there, a value of another type is refused
like a missing one. Where it has a default, `refused_or_read_as_null` says that such a value is
passed over in silence: the document reads as it does with null in its place, so a project whose
pattern is no text manages every ref.
-/

namespace BuildScheduler

open Kdl (Node Document)

namespace Config

/-! ## Places of values -/

inductive Place where
  /-- The first argument. -/
  | argument
  | property (name : String)
deriving DecidableEq

namespace Place

def value? : Place → Node → Option Kdl.Value
  | argument, node => node.argument?
  | property name, node => node.property? name

def has : Place → Kdl.Entry → Bool
  | argument, entry => entry.name.isNone
  | property name, entry => entry.name == some name

def clearEntry (place : Place) (entry : Kdl.Entry) : Kdl.Entry :=
  if place.has entry then { entry with value := .null } else entry

def clear (place : Place) : Node → Node
  | .mk name entries children => .mk name (entries.map place.clearEntry) children

@[simp] theorem name_clear (place : Place) (node : Node) : (place.clear node).name = node.name := by
  cases node
  rfl

@[simp] theorem children_clear (place : Place) (node : Node) :
    (place.clear node).children = node.children := by
  cases node
  rfl

theorem has_clearEntry (place other : Place) (entry : Kdl.Entry) :
    other.has (place.clearEntry entry) = other.has entry := by
  unfold clearEntry
  split
  · cases other <;> rfl
  · rfl

/-- No entry is in two places. -/
theorem eq_of_has {place other : Place} {entry : Kdl.Entry} (h : place.has entry = true)
    (ho : other.has entry = true) : other = place := by
  cases place <;> cases other <;> simp_all [has]

theorem find?_clearEntry (place other : Place) (entries : List Kdl.Entry) :
    ((entries.map place.clearEntry).find? other.has).map (·.value) =
      if other = place then ((entries.find? other.has).map (·.value)).map fun _ => .null
      else (entries.find? other.has).map (·.value) := by
  have htest : other.has ∘ place.clearEntry = other.has :=
    funext fun entry => has_clearEntry place other entry
  rw [List.find?_map, htest]
  cases hf : entries.find? other.has with
  | none => simp
  | some entry =>
      have ho := List.find?_some hf
      by_cases hp : place.has entry = true
      · simp [clearEntry, hp, eq_of_has hp ho]
      · have hne : other ≠ place := by
          rintro rfl
          exact hp ho
        simp [clearEntry, hp, hne]

theorem value?_clear (place other : Place) (node : Node) :
    other.value? (place.clear node) =
      if other = place then (other.value? node).map fun _ => .null else other.value? node := by
  obtain ⟨name, entries, children⟩ := node
  cases other with
  | argument => exact find?_clearEntry place .argument entries
  | property name =>
      have h := find?_clearEntry place (.property name) entries.reverse
      rw [List.map_reverse] at h
      exact h

end Place

inductive ValueType where
  | text
  | integer
deriving DecidableEq

def ValueType.takes : ValueType → Kdl.Value → Bool
  | text, value => value.string?.isSome
  | integer, value => value.integer?.isSome

structure Slot where
  node : String
  place : Place
  type : ValueType
deriving DecidableEq

namespace Slot

/-- The node has a value of another type there; null is no value. -/
def Mistyped (slot : Slot) (node : Node) : Prop :=
  node.name = slot.node ∧ ∃ value, slot.place.value? node = some value ∧ value ≠ .null ∧
    slot.type.takes value = false

def required : List Slot := [
  ⟨"namespace", .argument, .text⟩,
  ⟨"lock-ttl-secs", .argument, .integer⟩,
  ⟨"deferral-interval-secs", .argument, .integer⟩,
  ⟨"lock-store", .argument, .text⟩,
  ⟨"deferral-store", .argument, .text⟩,
  ⟨"build-scripts", .property "repository", .text⟩,
  ⟨"project", .argument, .text⟩,
  ⟨"project", .property "image", .text⟩]

def defaulted : List Slot := [
  ⟨"database-url", .argument, .text⟩,
  ⟨"retry", .property "timeout-ms", .integer⟩,
  ⟨"retry", .property "max-attempts", .integer⟩,
  ⟨"build-scripts", .property "branch", .text⟩,
  ⟨"credentials", .property "secret", .text⟩,
  ⟨"project", .property "managed-ref", .text⟩]

end Slot

/-! ## Values that are passed over -/

/-- Null in place of a value that a reading makes nothing of changes nothing for the reading. -/
theorem Place.read_clear {read : Kdl.Value → Option α} (hnull : read .null = none)
    {place : Place} {node : Node} (h : (place.value? node).bind read = none) (other : Place) :
    (other.value? (place.clear node)).bind read = (other.value? node).bind read := by
  rw [value?_clear]
  split
  · rename_i he
    rw [he, h]
    cases place.value? node with
    | none => rfl
    | some value => exact hnull
  · rfl

section Alike

variable {node other : Node} (hname : other.name = node.name)
include hname

/-- Settings of texts depend on nothing but the texts of a node and its children. -/
theorem readNode_of_texts (hchildren : other.children = node.children)
    (htexts : ∀ place : Place,
      (place.value? other).bind Kdl.Value.string? = (place.value? node).bind Kdl.Value.string?)
    (hsetting : node.name ∈ ["database-url", "build-scripts", "credentials", "project"])
    (config : Config) : readNode config other = readNode config node := by
  have hargument : other.stringArgument? = node.stringArgument? := htexts .argument
  have hproperty : ∀ name, other.stringProperty? name = node.stringProperty? name :=
    fun name => htexts (.property name)
  have hscripts : scriptsSource other = scriptsSource node := by
    simp only [scriptsSource, hproperty]
  have hproject : project other = project node := by
    simp only [project, descriptor, sidecars, hargument, hproperty, hchildren]
  rw [readNode, readNode, hname]
  simp only [List.mem_cons, List.not_mem_nil, or_false] at hsetting
  obtain h | h | h | h := hsetting
  · simp only [h, hargument]
  · simp only [h, hscripts]
  · simp only [h, hproperty]
  · simp only [h, hproject]

theorem readNode_of_integers
    (hintegers : ∀ place : Place,
      (place.value? other).bind Kdl.Value.integer? = (place.value? node).bind Kdl.Value.integer?)
    (hsetting : node.name = "retry") (config : Config) :
    readNode config other = readNode config node := by
  have hproperty : ∀ name, other.integerProperty? name = node.integerProperty? name :=
    fun name => hintegers (.property name)
  have hretry : retrySettings other = retrySettings node := by
    simp only [retrySettings, hproperty]
  rw [readNode, readNode, hname]
  simp only [hsetting, hretry]

end Alike

namespace Slot

variable {slot : Slot} {node : Node}

theorem Mistyped.text? (h : slot.Mistyped node) (ht : slot.type = .text) :
    (slot.place.value? node).bind Kdl.Value.string? = none := by
  obtain ⟨-, value, hv, -, htype⟩ := h
  rw [ht] at htype
  rw [hv]
  exact Option.isNone_iff_eq_none.1 (by simpa [ValueType.takes] using htype)

theorem Mistyped.integer? (h : slot.Mistyped node) (ht : slot.type = .integer) :
    (slot.place.value? node).bind Kdl.Value.integer? = none := by
  obtain ⟨-, value, hv, -, htype⟩ := h
  rw [ht] at htype
  rw [hv]
  exact Option.isNone_iff_eq_none.1 (by simpa [ValueType.takes] using htype)

theorem defaulted_cases (h : slot ∈ defaulted) :
    (slot.type = .text ∧ slot.node ∈ ["database-url", "build-scripts", "credentials", "project"]) ∨
      (slot.type = .integer ∧ slot.node = "retry") := by
  revert slot
  decide

/-- A value of another type counts as null where there is a default. -/
theorem readNode_clear (hs : slot ∈ defaulted) (h : slot.Mistyped node) (config : Config) :
    readNode config (slot.place.clear node) = readNode config node := by
  have hname := Place.name_clear slot.place node
  obtain ⟨ht, hnode⟩ | ⟨ht, hnode⟩ := defaulted_cases hs
  · exact readNode_of_texts hname (Place.children_clear slot.place node)
      (Place.read_clear rfl (h.text? ht)) (h.1 ▸ hnode) config
  · exact readNode_of_integers hname (Place.read_clear rfl (h.integer? ht)) (h.1.trans hnode) config

/-! ## Values that are refused -/

theorem require_none (setting : Setting) :
    require setting (none : Option α) = .error (.missing setting) := rfl

/-- A value of another type is refused where one has to be there. -/
theorem readNode_error (hs : slot ∈ required) (h : slot.Mistyped node) (config : Config) :
    ∃ error, readNode config node = .error error := by
  have hname := h.1
  rw [readNode]
  simp only [required, List.mem_cons, List.not_mem_nil, or_false] at hs
  obtain rfl | rfl | rfl | rfl | rfl | rfl | rfl | rfl := hs
  · have hread : node.stringArgument? = none := h.text? rfl
    simp only [hname, hread, require_none]
    exact ⟨_, rfl⟩
  · have hread : node.integerArgument? = none := h.integer? rfl
    simp only [hname, positiveSeconds, hread, require_none]
    exact ⟨_, rfl⟩
  · have hread : node.integerArgument? = none := h.integer? rfl
    simp only [hname, positiveSeconds, hread, require_none]
    exact ⟨_, rfl⟩
  · have hread : node.stringArgument? = none := h.text? rfl
    simp only [hname, backend, hread]
    exact ⟨_, rfl⟩
  · have hread : node.stringArgument? = none := h.text? rfl
    simp only [hname, backend, hread]
    exact ⟨_, rfl⟩
  · have hread : node.stringProperty? "repository" = none := h.text? rfl
    simp only [hname, scriptsSource, hread, require_none]
    exact ⟨_, rfl⟩
  · have hread : node.stringArgument? = none := h.text? rfl
    simp only [hname, project, hread, require_none]
    exact ⟨_, rfl⟩
  · have hread : node.stringProperty? "image" = none := h.text? rfl
    cases hp : project node with
    | error error =>
        simp only [hname]
        exact ⟨_, rfl⟩
    | ok read => cases hread.symm.trans (describes_of_project hp).image

def sidecar : Slot := ⟨"sidecar", .argument, .text⟩

theorem readNode_sidecar_error (hproject : node.name = "project") {child : Node}
    (hm : child ∈ node.children) (h : sidecar.Mistyped child) (config : Config) :
    ∃ error, readNode config node = .error error := by
  rw [readNode]
  cases hp : project node with
  | error error =>
      simp only [hproject]
      exact ⟨_, rfl⟩
  | ok read =>
      have hchild : child ∈ node.children.filter (·.name == "sidecar") :=
        List.mem_filter.2 ⟨hm, beq_iff_eq.2 h.1⟩
      have hall : ∀ child ∈ node.children.filter (·.name == "sidecar"),
          ∃ text, child.stringArgument? = some text :=
        forall_mem_of_forall₂ (describes_of_project hp).sidecars.flip fun text _ hc => ⟨text, hc.1⟩
      obtain ⟨text, ht⟩ := hall child hchild
      have hread : child.stringArgument? = none := h.text? rfl
      cases hread.symm.trans ht

end Slot

/-! ## Documents -/

theorem exists_readNode_of_mem {nodes : List Node} {before after : Config}
    (h : nodes.foldlM readNode before = .ok after) :
    ∀ node ∈ nodes, ∃ config next, readNode config node = .ok next := by
  induction nodes generalizing before with
  | nil => exact List.forall_mem_nil _
  | cons node rest ih =>
      rw [List.foldlM_cons] at h
      obtain ⟨next, hn, h⟩ := bind_ok_iff.1 h
      exact List.forall_mem_cons.2 ⟨⟨before, next, hn⟩, ih h⟩

/-- A document with a node that is refused over any settings is refused. -/
theorem ofDocument_error {document : Document} {node : Node} (hm : node ∈ document)
    (h : ∀ config, ∃ error, readNode config node = .error error) :
    ∃ error, ofDocument document = .error error := by
  cases hd : ofDocument document with
  | error error => exact ⟨error, rfl⟩
  | ok config =>
      obtain ⟨hfold, -⟩ := ofDocument_ok_iff.1 hd
      obtain ⟨before, next, hn⟩ := exists_readNode_of_mem hfold node hm
      obtain ⟨error, he⟩ := h before
      cases hn.symm.trans he

theorem ofDocument_congr {node other : Node}
    (h : ∀ config, readNode config other = readNode config node) (before after : Document) :
    ofDocument (before ++ other :: after) = ofDocument (before ++ node :: after) := by
  simp only [ofDocument, List.foldlM_append, List.foldlM_cons, h]

def Slot.managedRef : Slot := ⟨"project", .property "managed-ref", .text⟩

/-- A project whose pattern is of another type is accepted without one. -/
theorem isManaged_of_mistyped {node : Node} {project : Project} (hd : Describes node project)
    (h : Slot.managedRef.Mistyped node) (ref : String) :
    project.descriptor.isManaged ref = true := by
  have hread : node.stringProperty? "managed-ref" = none := h.text? rfl
  have hpattern := hd.pattern
  rw [hread, Option.filter_none, eq_comm, Option.map_eq_none_iff] at hpattern
  rw [Descriptor.isManaged, hpattern]
  rfl

/-- A document in which a setting that has to be there, or a sidecar, is of another type is refused.
If a setting that has a default is, the document reads as it does with null there, and is refused
only if it is then; in particular a project with such a pattern manages every ref. -/
theorem refused_or_read_as_null (text : String) (document : Document)
    (hd : Kdl.parse text = some document) :
    (∀ node ∈ document, ∀ slot ∈ Slot.required, slot.Mistyped node →
      ∃ error, ofText text = .error error) ∧
    (∀ node ∈ document, node.name = "project" → ∀ child ∈ node.children,
      Slot.sidecar.Mistyped child → ∃ error, ofText text = .error error) ∧
    (∀ before node after, document = before ++ node :: after → ∀ slot ∈ Slot.defaulted,
      slot.Mistyped node → ofText text = ofDocument (before ++ slot.place.clear node :: after)) ∧
    ∀ config, ofText text = .ok config →
      List.Forall₂ (fun node project => Slot.managedRef.Mistyped node →
        ∀ ref, project.descriptor.isManaged ref = true)
        (document.filter (·.name == "project")) config.projects := by
  have htext : ofText text = ofDocument document := by rw [ofText, hd]
  rw [htext]
  refine ⟨?_, ?_, ?_, ?_⟩
  · intro node hm slot hs h
    exact ofDocument_error hm (Slot.readNode_error hs h)
  · intro node hm hproject child hc h
    exact ofDocument_error hm (Slot.readNode_sidecar_error hproject hc h)
  · rintro before node after rfl slot hs h
    exact (ofDocument_congr (Slot.readNode_clear hs h) before after).symm
  · intro config hc
    exact (follows_of_ofDocument hc).projects.imp fun _ _ => isManaged_of_mistyped

/-- A pattern that is a number, and a namespace that is one. -/
theorem unread_pattern_manages_all :
    let text := "project \"acme/widgets\" image=\"builder\" managed-ref=5"
    let named := "namespace 5"
    (∃ document config, Kdl.parse text = some document ∧ ofText text = .ok config ∧
      (∃ node ∈ document, Slot.managedRef.Mistyped node ∧
        ofText text = ofDocument [Slot.managedRef.place.clear node]) ∧
      config.projects.length = 1 ∧
      ∀ project ∈ config.projects, ∀ ref, project.descriptor.isManaged ref = true) ∧
    ∃ document error, Kdl.parse named = some document ∧
      (∃ node ∈ document, ∃ slot ∈ Slot.required, slot.Mistyped node) ∧
      ofText named = .error error := by
  intro text named
  constructor
  · have hparse : (Kdl.parse text).map (·.map fun node =>
        (node.name, node.property? "managed-ref")) = some [("project", some (.int 5))] := by
      decide +kernel
    obtain ⟨document, hd, hdocument⟩ := Option.map_eq_some_iff.1 hparse
    obtain ⟨node, rfl, hnode⟩ := List.map_eq_singleton_iff.1 hdocument
    have hname : node.name = "project" := congrArg Prod.fst hnode
    have hm : Slot.managedRef.Mistyped node :=
      ⟨hname, .int 5, congrArg Prod.snd hnode, nofun, rfl⟩
    obtain ⟨-, -, hnull, hmanaged⟩ := refused_or_read_as_null text [node] hd
    have hread := hnull [] node [] rfl Slot.managedRef (by decide) hm
    obtain ⟨config, hc, hlength⟩ := exists_ok_of_any (ofText text) (·.projects.length == 1)
      (by decide +kernel)
    refine ⟨[node], config, hd, hc, ⟨node, List.mem_cons_self, hm, hread⟩,
      beq_iff_eq.1 hlength, ?_⟩
    have hprojects := hmanaged config hc
    rw [List.filter_cons_of_pos (by simpa using hname), List.filter_nil] at hprojects
    obtain ⟨project, rest, hproject, hrest, hall⟩ := List.forall₂_cons_left_iff.1 hprojects
    cases hrest
    rw [hall]
    exact List.forall_mem_singleton.2 (hproject hm)
  · have hparse : (Kdl.parse named).map (·.map fun node => (node.name, node.argument?)) =
        some [("namespace", some (.int 5))] := by
      decide +kernel
    obtain ⟨document, hd, hdocument⟩ := Option.map_eq_some_iff.1 hparse
    obtain ⟨node, rfl, hnode⟩ := List.map_eq_singleton_iff.1 hdocument
    have hm : (⟨"namespace", .argument, .text⟩ : Slot).Mistyped node :=
      ⟨congrArg Prod.fst hnode, .int 5, congrArg Prod.snd hnode, nofun, rfl⟩
    obtain ⟨hrefused, -⟩ := refused_or_read_as_null named [node] hd
    obtain ⟨error, he⟩ := hrefused node List.mem_cons_self _ (by decide) hm
    exact ⟨[node], error, hd, ⟨node, List.mem_cons_self, _, by decide, hm⟩, he⟩

end Config

end BuildScheduler
