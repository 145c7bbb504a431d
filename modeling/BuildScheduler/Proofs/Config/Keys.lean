import Mathlib.Data.List.Basic
import Mathlib.Data.List.Nodup
import Mathlib.Data.List.TakeWhile
import BuildScheduler.Config.Document
import BuildScheduler.Event

/-!
# Keys of configured projects

Keys and lock names join texts with slashes, so they can be read back only where these texts have no
slash of their own. A document keeps slashes out of the teams and names of its projects, and lists
no key twice: every configuration it gives is `Keyed`. Looking up the key of an event then finds the
project of its team and name, and no other.
-/

namespace BuildScheduler

/-! ## Texts joined by a slash -/

def SlashFree (text : String) : Prop := '/' ∉ text.toList

theorem toList_join (left right : String) :
    (left ++ "/" ++ right).toList = left.toList ++ '/' :: right.toList := by
  rw [String.toList_append, String.toList_append, List.append_assoc]
  rfl

theorem takeWhile_join {left : String} (h : SlashFree left) (right : String) :
    (left ++ "/" ++ right).toList.takeWhile (· != '/') = left.toList := by
  have hl : ∀ c ∈ left.toList, (c != '/') = true := by
    rintro c hc
    rw [bne_iff_ne]
    rintro rfl
    exact h hc
  rw [toList_join, List.takeWhile_append_of_pos hl, List.takeWhile_cons_of_neg (by simp),
    List.append_nil]

/-- A joined text determines what stands before its first slash and what stands after it. -/
theorem join_eq_iff {a b c d : String} (ha : SlashFree a) (hc : SlashFree c) :
    a ++ "/" ++ b = c ++ "/" ++ d ↔ a = c ∧ b = d := by
  constructor
  · intro h
    have hleft : a.toList = c.toList := by
      rw [← takeWhile_join ha b, h, takeWhile_join hc d]
    have hright := congrArg String.toList h
    rw [toList_join, toList_join, hleft, List.append_cancel_left_eq, List.cons.injEq] at hright
    exact ⟨String.toList_inj.1 hleft, String.toList_inj.1 hright.2⟩
  · rintro ⟨rfl, rfl⟩
    rfl

/-! ## Project keys -/

/-- The parts of the key are not empty, and the only slash in it is the one between them. -/
structure Project.WellKeyed (project : Project) : Prop where
  team_ne : project.team ≠ ""
  name_ne : project.name ≠ ""
  team : SlashFree project.team
  name : SlashFree project.name

/-- The key of an event is that of a well-keyed project if and only if team and name agree. -/
theorem Project.WellKeyed.key_eq_iff {project : Project} (h : project.WellKeyed)
    (event : BuildEvent) :
    project.key = event.projectKey ↔ project.team = event.team ∧ project.name = event.project := by
  rw [key, BuildEvent.projectKey, ← String.toList_inj, toList_join, toList_join,
    List.append_cons_inj_of_notMem h.team h.name, String.toList_inj, String.toList_inj,
    and_iff_right rfl]

namespace Config

/-- A key that splits has two parts that are not empty, and one slash. -/
theorem splitKey?_eq_some {key team name : String} (h : splitKey? key = some (team, name)) :
    key = team ++ "/" ++ name ∧ team ≠ "" ∧ name ≠ "" ∧ SlashFree team ∧ SlashFree name := by
  have hfree : '/' ∉ key.toList.takeWhile (· != '/') := by
    intro hm
    have hp := List.mem_takeWhile_imp hm
    simp at hp
  obtain ⟨rest, hrest⟩ := List.takeWhile_prefix (l := key.toList) (· != '/')
  rw [splitKey?] at h
  generalize key.toList.takeWhile (· != '/') = left at h hfree hrest
  simp only [← hrest, List.drop_left] at h
  split at h
  · rename_i right
    split at h
    · cases h
    · rename_i hparts
      cases h
      obtain ⟨hleft, hright, hslash⟩ := (not_or.1 hparts).imp_right not_or.1
      refine ⟨?_, ?_, ?_, ?_, ?_⟩
      · rw [← String.toList_inj, toList_join, String.toList_ofList, String.toList_ofList, hrest]
      · exact fun h => hleft (by simpa using h)
      · exact fun h => hright (by simpa using h)
      · rwa [SlashFree, String.toList_ofList]
      · rwa [SlashFree, String.toList_ofList]
  · cases h

theorem exists_of_bind_eq_ok {x : Except ε α} {f : α → Except ε β} {value : β}
    (h : x >>= f = .ok value) : ∃ found, x = .ok found ∧ f found = .ok value := by
  cases x with
  | error error => cases h
  | ok found => exact ⟨found, rfl, h⟩

/-- The project of a node is well keyed. -/
theorem project_wellKeyed {node : Kdl.Node} {read : Project} (h : project node = .ok read) :
    read.WellKeyed := by
  obtain ⟨key, -, h⟩ := exists_of_bind_eq_ok h
  cases hs : splitKey? key with
  | none => 
      rw [hs] at h
      cases h
  | some parts =>
      rw [hs] at h
      obtain ⟨descriptor, -, h⟩ := exists_of_bind_eq_ok h
      obtain ⟨sidecars, -, h⟩ := exists_of_bind_eq_ok h
      cases h
      obtain ⟨-, hteam, hname, ht, hn⟩ := splitKey?_eq_some hs
      exact ⟨hteam, hname, ht, hn⟩

/-- Adding a project keeps the others before it, and takes a new key. -/
theorem addProject_eq_ok {project : Project} {config after : Config}
    (h : config.addProject project = .ok after) :
    after.projects = config.projects ++ [project] ∧
      project.key ∉ config.projects.map Project.key := by
  unfold addProject at h
  split at h
  · cases h
  · rename_i hnew
    cases h
    refine ⟨rfl, fun hm => hnew ?_⟩
    simpa using hm

/-- A setting that reads a value leaves the projects. -/
theorem projects_of_setting {config after : Config} {x : Except ConfigError α} {f : α → Config}
    (h : (do pure (f (← x))) = Except.ok after)
    (hf : ∀ value, (f value).projects = config.projects) : after.projects = config.projects := by
  obtain ⟨value, -, h⟩ := exists_of_bind_eq_ok h
  cases h
  exact hf value

/-- A node leaves the projects, or adds the project that it describes. -/
theorem readNode_projects {config after : Config} {node : Kdl.Node}
    (h : config.readNode node = .ok after) :
    after.projects = config.projects ∨
      ∃ read, project node = .ok read ∧ config.addProject read = .ok after := by
  unfold readNode at h
  -- by the name of the node, in the order in which they are tried
  split at h
  · exact .inl (projects_of_setting h fun _ => rfl)
  · exact .inl (projects_of_setting h fun _ => rfl)
  · exact .inl (projects_of_setting h fun _ => rfl)
  · exact .inl (projects_of_setting h fun _ => rfl)
  · exact .inl (projects_of_setting h fun _ => rfl)
  · cases h
    exact .inl rfl
  · exact .inl (projects_of_setting h fun _ => rfl)
  · exact .inl (projects_of_setting h fun _ => rfl)
  · cases h
    exact .inl rfl
  · obtain ⟨read, hr, h⟩ := exists_of_bind_eq_ok h
    exact .inr ⟨read, hr, h⟩
  · cases h
    exact .inl rfl

/-- The projects of the configuration are well keyed, and no two have the same key. -/
structure Keyed (config : Config) : Prop where
  wellKeyed : ∀ project ∈ config.projects, project.WellKeyed
  nodup : (config.projects.map Project.key).Nodup

theorem Keyed.readNode {config after : Config} {node : Kdl.Node} (hk : config.Keyed)
    (h : config.readNode node = .ok after) : after.Keyed := by
  obtain hp | ⟨read, hr, ha⟩ := readNode_projects h
  · exact ⟨by rw [hp]; exact hk.wellKeyed, by rw [hp]; exact hk.nodup⟩
  · obtain ⟨hp, hnew⟩ := addProject_eq_ok ha
    constructor
    · rw [hp]
      intro project hm
      obtain hm | hm := List.mem_append.1 hm
      · exact hk.wellKeyed project hm
      · obtain rfl := List.mem_singleton.1 hm
        exact project_wellKeyed hr
    · rw [hp, List.map_append, List.map_singleton, List.nodup_append']
      exact ⟨hk.nodup, List.nodup_singleton _, by simpa using hnew⟩

/-- What holds of the defaults, and is kept by every node that is read, holds of the configuration
of a document. -/
theorem ofDocument_keeps {kept : Config → Prop} (start : kept {})
    (step : ∀ config node after, kept config → Config.readNode config node = .ok after → kept after)
    {document : Kdl.Document} {config : Config} (h : ofDocument document = .ok config) :
    kept config := by
  have hfold : ∀ (nodes : List Kdl.Node) (before after : Config), kept before →
      nodes.foldlM Config.readNode before = .ok after → kept after := by
    intro nodes
    induction nodes with
    | nil =>
        intro before after hb h
        cases h
        exact hb
    | cons node nodes ih =>
        intro before after hb h
        rw [List.foldlM_cons] at h
        obtain ⟨next, hn, h⟩ := exists_of_bind_eq_ok h
        exact ih next after (step before node next hb hn) h
  obtain ⟨read, hr, hc⟩ := exists_of_bind_eq_ok h
  unfold checkDatabase at hc
  split at hc
  · cases hc
  · cases hc
    exact hfold document {} _ start hr

theorem keyed_of_ofText {text : String} {config : Config} (h : ofText text = .ok config) :
    config.Keyed := by
  unfold ofText at h
  split at h
  · exact ofDocument_keeps ⟨List.forall_mem_nil _, List.nodup_nil⟩
      (fun _ _ _ hk hr => hk.readNode hr) h
  · cases h

end Config

/-! ## Lookup -/

/-- With distinct keys a lookup finds a project by its key. -/
theorem Catalog.find?_ofList_iff {projects : List Project}
    (hn : (projects.map Project.key).Nodup) {key : String} {project : Project} :
    (ofList projects).find? key = some project ↔ project ∈ projects ∧ project.key = key := by
  rw [find?, ofList]
  constructor
  · intro h
    exact ⟨List.mem_reverse.1 (List.mem_of_find?_eq_some h), by simpa using List.find?_some h⟩
  · rintro ⟨hm, rfl⟩
    have hsome : (projects.reverse.find? (·.key == project.key)).isSome = true :=
      List.find?_isSome.2 ⟨project, List.mem_reverse.2 hm, beq_self_eq_true _⟩
    obtain ⟨other, ho⟩ := Option.isSome_iff_exists.1 hsome
    have hkey : other.key = project.key := by simpa using List.find?_some ho
    have hmem := List.mem_reverse.1 (List.mem_of_find?_eq_some ho)
    rw [ho, List.inj_on_of_nodup_map hn hmem hm hkey]

namespace Config.Keyed

variable {config : Config} (h : config.Keyed)
include h

/-- The key of an event is looked up to the project of its team and name. -/
theorem find?_projectKey_iff (event : BuildEvent) (project : Project) :
    (Catalog.ofList config.projects).find? event.projectKey = some project ↔
      project ∈ config.projects ∧ project.team = event.team ∧ project.name = event.project := by
  rw [Catalog.find?_ofList_iff h.nodup]
  exact and_congr_right fun hm => (h.wellKeyed project hm).key_eq_iff event

/-- What an event that passes the lookup asks for has no slash in its team and its project. -/
theorem slashFree {event : BuildEvent}
    (hf : ((Catalog.ofList config.projects).find? event.projectKey).isSome = true) :
    SlashFree event.team ∧ SlashFree event.project := by
  obtain ⟨project, hp⟩ := Option.isSome_iff_exists.1 hf
  obtain ⟨hm, ht, hn⟩ := (h.find?_projectKey_iff event project).1 hp
  exact ⟨ht ▸ (h.wellKeyed project hm).team, hn ▸ (h.wellKeyed project hm).name⟩

/-- Events that pass the lookup have one lock name only if they are for one ref of one project. -/
theorem lockName_eq_iff {a b : BuildEvent}
    (ha : ((Catalog.ofList config.projects).find? a.projectKey).isSome = true)
    (hb : ((Catalog.ofList config.projects).find? b.projectKey).isSome = true) :
    a.lockName = b.lockName ↔ a.team = b.team ∧ a.project = b.project ∧ a.ref = b.ref := by
  have hassoc : ∀ event : BuildEvent,
      event.lockName = event.team ++ "/" ++ (event.project ++ "/" ++ event.ref) := by
    intro event
    simp only [BuildEvent.lockName, String.append_assoc]
  obtain ⟨hta, hpa⟩ := h.slashFree ha
  obtain ⟨htb, hpb⟩ := h.slashFree hb
  rw [hassoc, hassoc, join_eq_iff hta htb, join_eq_iff hpa hpb]

end Config.Keyed

end BuildScheduler
