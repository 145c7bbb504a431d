import BuildScheduler.Proofs.Config.Accepted

/-!
# The order of settings

A node assigns something to one setting, and assignments to different settings commute. So a
document is accepted, and with the same configuration, just if it is with its nodes sorted by the
settings that they are about: only the order among the nodes of one name counts, and nodes of other
names do not. `settings_in_any_order` says this of documents and of texts.
-/

namespace BuildScheduler

open Kdl (Node Document)

/-! ## Passes over items of different keys -/

section Grouping

variable {σ α : Type}

/-- The items of the keys, those of one key together. -/
def grouped (key : α → String) (keys : List String) (items : List α) : List α :=
  keys.flatMap fun name => items.filter (key · == name)

theorem grouped_cons_of_notMem {key : α → String} {keys : List String} {item : α}
    (h : key item ∉ keys) (rest : List α) :
    grouped key keys (item :: rest) = grouped key keys rest := by
  refine List.flatMap_congr fun name hname => List.filter_cons_of_neg ?_
  have hne : key item ≠ name := by
    rintro rfl
    exact h hname
  simpa using hne

theorem mem_keys_of_mem_grouped {key : α → String} {keys : List String} {items : List α} {item : α}
    (h : item ∈ grouped key keys items) : key item ∈ keys := by
  obtain ⟨name, hname, hm⟩ := List.mem_flatMap.1 h
  have hkey : key item = name := by simpa using (List.mem_filter.1 hm).2
  rwa [hkey]

variable {step : σ → α → Option σ} {key : α → String}
  (hc : ∀ a b state, key a ≠ key b →
    (step state a >>= fun next => step next b) = step state b >>= fun next => step next a)

include hc

/-- An item can be dealt with after items of other keys. -/
theorem foldlM_later {item : α} {passed : List α} (hp : ∀ other ∈ passed, key other ≠ key item)
    (rest : List α) (state : σ) :
    (item :: (passed ++ rest)).foldlM step state = (passed ++ item :: rest).foldlM step state := by
  induction passed generalizing state with
  | nil => rfl
  | cons other passed ih =>
      obtain ⟨hother, hp⟩ := List.forall_mem_cons.1 hp
      have hswap := hc item other state hother.symm
      simp only [List.cons_append, List.foldlM_cons] at ih ⊢
      simp only [← ih hp, ← bind_assoc, hswap]

/-- If items of different keys commute and those of no key change nothing, a pass over all items
gives what a pass over the items of each key in turn gives. -/
theorem foldlM_grouped {keys : List String} (hn : keys.Nodup)
    (hi : ∀ item state, key item ∉ keys → step state item = some state) (items : List α)
    (state : σ) : items.foldlM step state = (grouped key keys items).foldlM step state := by
  induction items generalizing state with
  | nil => simp [grouped, List.flatMap_eq_nil_iff.2]
  | cons item rest ih =>
      rw [List.foldlM_cons]
      simp only [ih]
      by_cases hm : key item ∈ keys
      · obtain ⟨before, after, rfl⟩ := List.append_of_mem hm
        obtain ⟨hbefore, hafter⟩ : key item ∉ before ∧ key item ∉ after := by
          simpa using (List.nodup_cons.1 (List.nodup_middle.1 hn)).1
        -- the item comes after the groups before its own, which it leaves as they are
        have hgroups : ∀ others, grouped key (before ++ key item :: after) others =
            grouped key before others ++
              (others.filter (key · == key item) ++ grouped key after others) := by
          intro others
          rw [grouped, List.flatMap_append, List.flatMap_cons]
          rfl
        have hpassed : ∀ other ∈ grouped key before rest, key other ≠ key item :=
          fun other ho he => hbefore (he ▸ mem_keys_of_mem_grouped ho)
        rw [← List.foldlM_cons (f := step), hgroups, hgroups, foldlM_later hc hpassed,
          grouped_cons_of_notMem hbefore, grouped_cons_of_notMem hafter,
          List.filter_cons_of_pos (by simp), List.cons_append]
      · rw [hi item state hm, grouped_cons_of_notMem hm]
        rfl

end Grouping

namespace Config

/-! ## Assignments -/

def settingNames : List String := [
  "namespace", "lock-ttl-secs", "deferral-interval-secs", "lock-store", "deferral-store",
  "database-url", "retry", "build-scripts", "credentials", "project"]

/-- A node of another name than a setting changes nothing. -/
theorem readNode_of_notMem {node : Node} (h : node.name ∉ settingNames) (config : Config) :
    config.readNode node = .ok config := by
  unfold readNode
  split
  case h_11 => rfl
  all_goals
    rename_i hname
    exact absurd (by simp [hname, settingNames]) h

/-- What a node gives, and the setting that it gives it to. -/
inductive Assignment where
  | nameSpace (name : String)
  | lockTtl (span : Span)
  | deferralInterval (span : Span)
  | lockStore (backend : Backend)
  | deferralStore (backend : Backend)
  | databaseUrl (url : Option String)
  | retry (settings : RetrySettings)
  | scripts (source : ScriptsSource)
  /-- No secret leaves the former one. -/
  | credentials (secret : Option String)
  | project (read : Project)
  /-- Nodes of other names give nothing. -/
  | nothing (name : String)

namespace Assignment

def setting : Assignment → String
  | nameSpace _ => "namespace"
  | lockTtl _ => "lock-ttl-secs"
  | deferralInterval _ => "deferral-interval-secs"
  | lockStore _ => "lock-store"
  | deferralStore _ => "deferral-store"
  | databaseUrl _ => "database-url"
  | retry _ => "retry"
  | scripts _ => "build-scripts"
  | credentials _ => "credentials"
  | project _ => "project"
  | nothing name => name

def apply (config : Config) : Assignment → Except ConfigError Config
  | nameSpace name => .ok { config with nameSpace := name }
  | lockTtl span => .ok { config with lockTtl := span }
  | deferralInterval span => .ok { config with deferralInterval := span }
  | lockStore backend => .ok { config with lockStore := backend }
  | deferralStore backend => .ok { config with deferralStore := backend }
  | databaseUrl url => .ok { config with databaseUrl := url }
  | retry settings => .ok { config with retry := settings }
  | scripts source => .ok { config with scripts := source }
  | credentials secret =>
      .ok { config with credentialsSecret := secret.getD config.credentialsSecret }
  | .project read => config.addProject read
  | nothing _ => .ok config

/-- What a node assigns; that does not depend on the settings before. -/
def ofNode (node : Node) : Except ConfigError Assignment :=
  match node.name with
  | "namespace" => (require .nameSpace node.stringArgument?).map nameSpace
  | "lock-ttl-secs" => (positiveSeconds .lockTtl node).map lockTtl
  | "deferral-interval-secs" => (positiveSeconds .deferralInterval node).map deferralInterval
  | "lock-store" => (backend .lockStore node).map lockStore
  | "deferral-store" => (backend .deferralStore node).map deferralStore
  | "database-url" => .ok (databaseUrl node.stringArgument?)
  | "retry" => (retrySettings node).map retry
  | "build-scripts" => (scriptsSource node).map scripts
  | "credentials" => .ok (credentials (node.stringProperty? "secret"))
  | "project" => (Config.project node).map project
  | name => .ok (nothing name)

theorem ofNode_of_notMem {node : Node} (h : node.name ∉ settingNames) :
    ofNode node = .ok (nothing node.name) := by
  unfold ofNode
  split
  case h_11 => rfl
  all_goals
    rename_i hname
    exact absurd (by simp [hname, settingNames]) h

/-- Reading a node assigns what it gives. -/
theorem readNode_eq (config : Config) (node : Node) :
    config.readNode node = ofNode node >>= apply config := by
  by_cases h : node.name ∈ settingNames
  · simp only [settingNames, List.mem_cons, List.not_mem_nil, or_false] at h
    rw [readNode, ofNode]
    rcases h with h | h | h | h | h | h | h | h | h | h
    all_goals
      simp only [h, map_bind_eq]
      rfl
  · rw [readNode_of_notMem h, ofNode_of_notMem h]
    rfl

theorem setting_ofNode {node : Node} {assignment : Assignment}
    (h : ofNode node = .ok assignment) : assignment.setting = node.name := by
  by_cases hm : node.name ∈ settingNames
  · simp only [settingNames, List.mem_cons, List.not_mem_nil, or_false] at hm
    rw [ofNode] at h
    rcases hm with hm | hm | hm | hm | hm | hm | hm | hm | hm | hm
    case inr.inr.inr.inr.inr.inl =>
      simp only [hm, Except.ok.injEq] at h
      rw [← h, hm, setting]
    case inr.inr.inr.inr.inr.inr.inr.inr.inl =>
      simp only [hm, Except.ok.injEq] at h
      rw [← h, hm, setting]
    all_goals
      simp only [hm, map_ok_iff] at h
      obtain ⟨value, -, rfl⟩ := h
      rw [hm, setting]
  · rw [ofNode_of_notMem hm, Except.ok.injEq] at h
    rw [← h, setting]

/-- A project is added to the projects, whatever the other settings are. -/
theorem apply_project_comm (read : Project) {other : Assignment} (h : other.setting ≠ "project")
    (config : Config) :
    (apply config (.project read) >>= fun next => other.apply next) =
      other.apply config >>= fun next => apply next (.project read) := by
  cases other with
  | project p => exact absurd rfl h
  | _ =>
      simp only [apply, addProject]
      split <;> simp_all [bind, Except.bind]

theorem apply_comm {a b : Assignment} (h : a.setting ≠ b.setting) (config : Config) :
    (a.apply config >>= fun next => b.apply next) =
      b.apply config >>= fun next => a.apply next := by
  cases a with
  | project p =>
      cases b with
      | project q => exact absurd rfl h
      | _ => exact apply_project_comm p h.symm config
  | _ =>
      cases b with
      | project q => exact (apply_project_comm q h config).symm
      | _ => first | rfl | exact absurd rfl h

end Assignment

def readNode? (config : Config) (node : Node) : Option Config := (config.readNode node).toOption

theorem readNode?_comm (a b : Node) (config : Config) (h : a.name ≠ b.name) :
    (config.readNode? a >>= fun next => next.readNode? b) =
      config.readNode? b >>= fun next => next.readNode? a := by
  simp only [readNode?, Assignment.readNode_eq, toOption_bind]
  cases ha : Assignment.ofNode a with
  | error error =>
      cases Assignment.ofNode b <;> simp [Except.toOption]
  | ok first =>
      cases hb : Assignment.ofNode b with
      | error error => simp [Except.toOption]
      | ok second =>
          have hne : first.setting ≠ second.setting := by
            rwa [Assignment.setting_ofNode ha, Assignment.setting_ofNode hb]
          have hc := congrArg Except.toOption (Assignment.apply_comm hne config)
          rw [toOption_bind, toOption_bind] at hc
          exact hc

/-! ## Documents -/

/-- For every setting the documents have the same nodes, in the same order. -/
def SameSettings (document other : Document) : Prop :=
  ∀ name ∈ settingNames, document.filter (·.name == name) = other.filter (·.name == name)

/-- The same nodes in another order, in which the nodes of one name stand as before. -/
structure Reorders (document other : Document) : Prop where
  perm : document.Perm other
  order : ∀ name, document.filter (·.name == name) = other.filter (·.name == name)

theorem reorders_later {node : Node} {passed : Document}
    (h : ∀ other ∈ passed, other.name ≠ node.name) (before after : Document) :
    Reorders (before ++ node :: (passed ++ after)) (before ++ (passed ++ node :: after)) where
  perm := List.Perm.append_left before List.perm_middle.symm
  order name := by
    simp only [List.filter_append, List.append_cancel_left_eq]
    by_cases hn : node.name = name
    · have hnone : passed.filter (·.name == name) = [] :=
        List.filter_eq_nil_iff.2 fun other ho => by simpa [← hn] using h other ho
      rw [List.filter_cons_of_pos (by simpa using hn), List.filter_cons_of_pos (by simpa using hn),
        List.filter_append, hnone, List.nil_append, List.nil_append]
    · rw [List.filter_cons_of_neg (by simpa using hn), List.filter_cons_of_neg (by simpa using hn),
        List.filter_append]

/-- A document is accepted as what it is with its nodes sorted by their settings. -/
theorem toOption_ofDocument (document : Document) :
    (ofDocument document).toOption =
      (grouped Node.name settingNames document).foldlM readNode? {} >>= fun config =>
        config.checkDatabase.toOption := by
  rw [ofDocument, toOption_bind, toOption_foldlM]
  congr 1
  refine foldlM_grouped readNode?_comm (by decide) ?_ document {}
  intro node config hn
  rw [readNode?, readNode_of_notMem hn]
  rfl

theorem SameSettings.ofDocument_ok_iff {document other : Document} (h : SameSettings document other)
    (config : Config) : ofDocument other = .ok config ↔ ofDocument document = .ok config := by
  have hgroups : grouped Node.name settingNames document = grouped Node.name settingNames other :=
    List.flatMap_congr h
  rw [← toOption_eq_some_iff, ← toOption_eq_some_iff, toOption_ofDocument, toOption_ofDocument,
    hgroups]

theorem ofDocument_of_notMem {node : Node} (h : node.name ∉ settingNames)
    (before after : Document) :
    ofDocument (before ++ node :: after) = ofDocument (before ++ after) := by
  simp only [ofDocument, List.foldlM_append, List.foldlM_cons, readNode_of_notMem h]
  rfl

/-- Documents that differ in the order of their nodes, but not among nodes of one name, are accepted
alike and with the same configuration; in particular a node can stand before or after nodes of other
names, such as the URL of a database before or after the store that needs it. Nodes that are no
settings make no difference wherever they are, not even to the cause of a refusal. So two texts are
accepted alike if they have the same nodes in the same order for every setting. -/
theorem settings_in_any_order :
    (∀ document other, Reorders document other → ∀ config,
      ofDocument other = .ok config ↔ ofDocument document = .ok config) ∧
    (∀ (before : Document) (node : Node) (passed after : Document),
      (∀ other ∈ passed, other.name ≠ node.name) → ∀ config,
        ofDocument (before ++ (passed ++ node :: after)) = .ok config ↔
          ofDocument (before ++ node :: (passed ++ after)) = .ok config) ∧
    (∀ (before : Document) (node : Node) (after : Document), node.name ∉ settingNames →
      ofDocument (before ++ node :: after) = ofDocument (before ++ after)) ∧
    ∀ text other document rearranged, Kdl.parse text = some document →
      Kdl.parse other = some rearranged → SameSettings document rearranged → ∀ config,
        ofText other = .ok config ↔ ofText text = .ok config := by
  have hreorders : ∀ document other, Reorders document other → ∀ config,
      ofDocument other = .ok config ↔ ofDocument document = .ok config :=
    fun document other h => SameSettings.ofDocument_ok_iff fun name _ => h.order name
  refine ⟨hreorders, ?_, ?_, ?_⟩
  · intro before node passed after h
    exact hreorders _ _ (reorders_later h before after)
  · intro before node after h
    exact ofDocument_of_notMem h before after
  · intro text other document rearranged hd hr h config
    rw [ofText, ofText, hd, hr]
    exact h.ofDocument_ok_iff config

/-- A text of nodes without children is what their names and entries say. -/
theorem parse_eq_of_leaves {text : String} (leaves : List (String × List Kdl.Entry))
    (h : (Kdl.parse text).map (·.map fun node =>
        (node.name, node.entries, node.children.isEmpty)) =
      some (leaves.map fun leaf => (leaf.1, leaf.2, true))) :
    Kdl.parse text = some (leaves.map fun leaf => .mk leaf.1 leaf.2 []) := by
  obtain ⟨document, hd, hnodes⟩ := Option.map_eq_some_iff.1 h
  rw [hd, Option.some.injEq]
  clear hd h
  induction document generalizing leaves with
  | nil =>
      rw [List.map_nil, eq_comm, List.map_eq_nil_iff] at hnodes
      rw [hnodes]
      rfl
  | cons node rest ih =>
      cases leaves with
      | nil => cases hnodes
      | cons leaf leaves =>
          obtain ⟨hfirst, hrest⟩ := List.cons.inj hnodes
          obtain ⟨name, entries, children⟩ := node
          simp only [Node.name, Node.entries, Node.children, Prod.mk.injEq,
            List.isEmpty_iff] at hfirst
          obtain ⟨rfl, rfl, rfl⟩ := hfirst
          rw [ih leaves hrest, List.map_cons]

/-- A store that needs a database before and after its URL, with and without a node that is no
setting. -/
theorem settings_in_any_order_of_store_and_url :
    let store : Node := .mk "lock-store" [{ value := .str "postgres" }] []
    let url : Node := .mk "database-url" [{ value := .str "db" }] []
    let retired : Node := .mk "retired" [{ value := .int 1 }] []
    Reorders [store, url] [url, store] ∧
    ∃ config, ofDocument [store, url] = .ok config ∧ ofDocument [url, store] = .ok config ∧
      ofDocument [store, retired, url] = .ok config ∧
      ofText "lock-store \"postgres\"\nretired 1\ndatabase-url \"db\"" = .ok config ∧
      ofText "database-url \"db\"\nlock-store \"postgres\"" = .ok config ∧
      config.databaseUrl = some "db" := by
  intro store url retired
  obtain ⟨hreorders, -, hunknown, htexts⟩ := settings_in_any_order
  have hr : Reorders [url, store] [store, url] :=
    reorders_later (List.forall_mem_singleton.2 (by decide)) [] []
  have hr : Reorders [store, url] [url, store] := ⟨hr.perm.symm, fun name => (hr.order name).symm⟩
  obtain ⟨config, hc, hu⟩ := exists_ok_of_any (ofDocument [store, url])
    (·.databaseUrl == some "db") (by decide +kernel)
  have hwithout : ofDocument [store, retired, url] = .ok config :=
    (hunknown [store] retired [url] (by decide)).trans hc
  have hfirst : Kdl.parse "lock-store \"postgres\"\nretired 1\ndatabase-url \"db\"" =
      some [store, retired, url] :=
    parse_eq_of_leaves [("lock-store", [{ value := .str "postgres" }]),
      ("retired", [{ value := .int 1 }]), ("database-url", [{ value := .str "db" }])]
      (by decide +kernel)
  have hsecond : Kdl.parse "database-url \"db\"\nlock-store \"postgres\"" =
      some [url, store] :=
    parse_eq_of_leaves [("database-url", [{ value := .str "db" }]),
      ("lock-store", [{ value := .str "postgres" }])] (by decide +kernel)
  have hsame : SameSettings [store, retired, url] [url, store] := by
    simp only [SameSettings, settingNames, List.forall_mem_cons]
    exact ⟨rfl, rfl, rfl, rfl, rfl, rfl, rfl, rfl, rfl, rfl, List.forall_mem_nil _⟩
  have htext : ofText "lock-store \"postgres\"\nretired 1\ndatabase-url \"db\"" = .ok config := by
    rw [ofText, hfirst]
    exact hwithout
  exact ⟨hr, config, hc, (hreorders _ _ hr config).2 hc, hwithout, htext,
    (htexts _ _ _ _ hfirst hsecond hsame config).2 htext, eq_of_beq hu⟩

end Config

end BuildScheduler
