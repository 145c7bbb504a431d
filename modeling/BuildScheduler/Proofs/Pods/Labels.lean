import BuildScheduler.Labels
import BuildScheduler.Proofs.Config.Keys

/-!
# Values of labels

A label value that is not empty begins and ends with a letter or digit, has only letters, digits,
dashes, underscores and points, and is at most 63 characters long, or the API refuses it. Sanitizing
a text sees to the characters but not to the length, so a build pod has usable labels just if its
lock name, the longest of the texts, is short enough: `labels_usable_iff`.
-/

namespace BuildScheduler

/-- Letters and digits at both ends, and nothing else but the marks between them. -/
structure Worded (marks : List Char) (text : String) : Prop where
  characters : ∀ c ∈ text.toList, c.isAlphanum = true ∨ c ∈ marks
  begins : ∃ c ∈ text.toList.head?, c.isAlphanum = true
  ends : ∃ c ∈ text.toList.getLast?, c.isAlphanum = true

def labelLimit : Nat := 63

/-- What the API takes for the value of a label that is not empty. -/
structure LabelValue (value : String) : Prop where
  short : value.length ≤ labelLimit
  worded : Worded ['-', '_', '.'] value

def nameMarks : List Char := ['.', '/', '_', '-']

/-! ## Sanitizing -/

theorem isAlphanum_labelChar (c : Char) : (labelChar c).isAlphanum = c.isAlphanum := by
  unfold labelChar
  split
  · rename_i h
    rcases h with rfl | rfl
    · decide
    · decide
  · rfl

theorem labelChar_mem_iff (c : Char) : labelChar c ∈ ['-', '_', '.'] ↔ c ∈ nameMarks := by
  unfold labelChar nameMarks
  split
  · rename_i h
    rcases h with rfl | rfl
    · decide
    · decide
  · rename_i h
    obtain ⟨hpoint, hslash⟩ := not_or.1 h
    simp only [List.mem_cons, List.not_mem_nil, hpoint, hslash, or_false, false_or]
    exact or_comm

/-- Sanitizing keeps the ends of a text, and makes an underscore of the marks that cannot stay. -/
theorem worded_asLabel_iff (text : String) :
    Worded ['-', '_', '.'] (asLabel text) ↔ Worded nameMarks text := by
  have hlist : (asLabel text).toList = text.toList.map labelChar := String.toList_map
  have hend : ∀ found : Option Char, (∃ c ∈ found.map labelChar, c.isAlphanum = true) ↔
      ∃ c ∈ found, c.isAlphanum = true := by
    intro found
    cases found <;> simp [isAlphanum_labelChar]
  have hcharacters : (∀ c ∈ (asLabel text).toList, c.isAlphanum = true ∨ c ∈ ['-', '_', '.']) ↔
      ∀ c ∈ text.toList, c.isAlphanum = true ∨ c ∈ nameMarks := by
    rw [hlist, List.forall_mem_map]
    simp only [isAlphanum_labelChar, labelChar_mem_iff]
  have hbegins : (∃ c ∈ (asLabel text).toList.head?, c.isAlphanum = true) ↔
      ∃ c ∈ text.toList.head?, c.isAlphanum = true := by
    rw [hlist, List.head?_map, hend]
  have hends : (∃ c ∈ (asLabel text).toList.getLast?, c.isAlphanum = true) ↔
      ∃ c ∈ text.toList.getLast?, c.isAlphanum = true := by
    rw [hlist, List.getLast?_map, hend]
  constructor
  · intro h
    exact ⟨hcharacters.1 h.characters, hbegins.1 h.begins, hends.1 h.ends⟩
  · intro h
    exact ⟨hcharacters.2 h.characters, hbegins.2 h.begins, hends.2 h.ends⟩

theorem length_asLabel (text : String) : (asLabel text).length = text.length := String.length_map

/-- A sanitized text is a label value if it is short enough and has no other marks. -/
theorem labelValue_asLabel_iff (text : String) :
    LabelValue (asLabel text) ↔ Worded nameMarks text ∧ text.length ≤ labelLimit := by
  rw [← worded_asLabel_iff, ← length_asLabel text]
  exact ⟨fun h => ⟨h.worded, h.short⟩, fun h => ⟨h.2, h.1⟩⟩

/-! ## Lock names -/

theorem Worded.join {marks : List Char} {left right : String} (hm : '/' ∈ marks)
    (hl : Worded marks left) (hr : Worded marks right) : Worded marks (left ++ "/" ++ right) := by
  obtain ⟨first, hfirst, hbegins⟩ := hl.begins
  obtain ⟨last, hlast, hends⟩ := hr.ends
  refine ⟨?_, ⟨first, ?_, hbegins⟩, ⟨last, ?_, hends⟩⟩
  · rw [toList_join, List.forall_mem_append, List.forall_mem_cons]
    exact ⟨hl.characters, .inr hm, hr.characters⟩
  · rw [toList_join, List.head?_append, Option.mem_def.1 hfirst, Option.some_or]
    rfl
  · rw [toList_join, List.getLast?_append, List.getLast?_cons, Option.mem_def.1 hlast]
    rfl

namespace BuildEvent

variable (event : BuildEvent)

theorem labels_eq_sorted : event.labels = [
    ("branch", asLabel event.ref),
    ("lockname", asLabel event.lockName),
    ("project", asLabel event.project),
    ("team", asLabel event.team),
    ("type", buildPodType)] := by
  have hteam : "team" < "type" := by decide
  have hproject : "project" < "team" := by decide
  have hbranch : "branch" < "project" := by decide
  have hlock : ¬ "lockname" < "branch" := by decide
  have hother : "lockname" ≠ "branch" := by decide
  have hplace : "lockname" < "project" := by decide
  simp only [labels, Labels.ofList, List.foldl_cons, List.foldl_nil, Labels.insert, if_pos hteam,
    if_pos hproject, if_pos hbranch, if_neg hlock, if_neg hother, if_pos hplace]

theorem length_lockName : event.lockName.length =
    event.team.length + event.project.length + event.ref.length + 2 := by
  simp only [lockName, String.length_append]
  have hslash : "/".length = 1 := rfl
  omega

theorem labelValue_buildPodType : LabelValue buildPodType := by
  have hlist : buildPodType.toList = ['d', 'e', 'c', 'a', 'p', '-', 'b', 'u', 'i', 'l', 'd'] := rfl
  have hall : (buildPodType.toList.all fun c =>
      c.isAlphanum || ['-', '_', '.'].contains c) = true := by
    rw [hlist]
    decide
  refine ⟨by decide, ?_, ⟨'d', rfl, rfl⟩, ⟨'d', rfl, rfl⟩⟩
  intro c hc
  rw [← List.contains_iff_mem, ← Bool.or_eq_true]
  exact List.all_eq_true.1 hall c hc

/-- The labels of a build pod are usable just if its team, project and ref have letters or digits
at their ends and no marks but points, slashes, underscores and dashes, and its lock name has at
most 63 characters. -/
theorem labels_usable_iff :
    (∀ label ∈ event.labels, LabelValue label.2) ↔
      (Worded nameMarks event.team ∧ Worded nameMarks event.project ∧
        Worded nameMarks event.ref) ∧ event.lockName.length ≤ labelLimit := by
  have hlength := event.length_lockName
  rw [labels_eq_sorted]
  simp only [List.forall_mem_cons, labelValue_asLabel_iff]
  constructor
  · intro h
    obtain ⟨href, hlock, hproject, hteam, -⟩ := h
    exact ⟨⟨hteam.1, hproject.1, href.1⟩, hlock.2⟩
  · intro h
    obtain ⟨⟨hteam, hproject, href⟩, hshort⟩ := h
    have hlock : Worded nameMarks event.lockName :=
      (hteam.join (by decide) hproject).join (by decide) href
    exact ⟨⟨href, by omega⟩, ⟨hlock, hshort⟩, ⟨hproject, by omega⟩, ⟨hteam, by omega⟩,
      labelValue_buildPodType, List.forall_mem_nil _⟩

end BuildEvent

end BuildScheduler
