import BuildScheduler.Proofs.Config.Keys
import BuildScheduler.Proofs.Results
import BuildScheduler.Stores

/-!
# Settings of accepted documents

A document is read node by node, and of nodes with one name the last one counts. Each setting is
checked where it is read: an integer out of its range is refused and never wrapped, so whatever a
document is accepted with lies in range, and the daemon need not check it again.
-/

namespace BuildScheduler

open Kdl (Node Document)

namespace Config

/-! ## Integers -/

theorem count64_ok_iff {setting : Setting} {value : Int} {count : UInt64} :
    count64 setting value = .ok count ↔ value = (count.toNat : Int) := by
  have hlt := count.toNat_lt
  rw [count64]
  split
  · rename_i hv
    rw [Except.ok.injEq, ← UInt64.toNat_inj, UInt64.toNat_ofNat']
    omega
  · rename_i hv
    refine iff_of_false nofun fun he => hv ?_
    omega

/-- A number of seconds is accepted if it is a count that is not zero. -/
theorem positiveSeconds_ok_iff {setting : Setting} {node : Node} {span : Span} :
    positiveSeconds setting node = .ok span ↔ ∃ seconds : UInt64,
      node.integerArgument? = some (seconds.toNat : Int) ∧ seconds ≠ 0 ∧
        Span.ofSeconds seconds = span := by
  rw [positiveSeconds, bind_ok_iff]
  cases node.integerArgument? with
  | none => simp [require]
  | some value =>
      simp only [require, Except.ok.injEq, exists_eq_left', bind_ok_iff, count64_ok_iff,
        Option.some.injEq]
      refine exists_congr fun seconds => and_congr_right fun _ => ?_
      split
      · rename_i hzero
        exact iff_of_false nofun fun h => h.1 hzero
      · rename_i hpos
        simp [hpos, pure, Except.pure]

/-- A time limit is a count of milliseconds, and zero is none. -/
theorem retryTimeout_eq (value : Option Int) :
    retryTimeout value = (count64 .retryTimeout (value.getD 10000)).map fun millis =>
      if millis = 0 then none else some (Span.ofMillis millis) := by
  cases value with
  | none => rfl
  | some value =>
      rw [retryTimeout, Option.getD_some]
      split
      · rename_i hzero
        rw [hzero]
        rfl
      · rename_i hne
        cases hc : count64 .retryTimeout value with
        | error error => rfl
        | ok millis =>
            have hmillis : millis ≠ 0 := by
              rintro rfl
              exact hne (count64_ok_iff.1 hc)
            simp only [Except.map, if_neg hmillis]

theorem retryAttempts_ok_iff {value : Option Int} {attempts : Nat} :
    retryAttempts value = .ok attempts ↔
      value.getD 3 = (attempts : Int) ∧ 1 ≤ attempts ∧ attempts ≤ 4294967295 := by
  cases value with
  | none =>
      have hdefault : ({} : RetrySettings).maxAttempts = 3 := rfl
      rw [retryAttempts, Except.ok.injEq, Option.getD_none, hdefault]
      omega
  | some value =>
      rw [retryAttempts]
      split <;> simp <;> omega

theorem retrySettings_ok_iff {node : Node} {settings : RetrySettings} :
    retrySettings node = .ok settings ↔
      (∃ millis : UInt64,
        (node.integerProperty? "timeout-ms").getD 10000 = (millis.toNat : Int) ∧
          (if millis = 0 then none else some (Span.ofMillis millis)) = settings.timeout) ∧
      (node.integerProperty? "max-attempts").getD 3 = (settings.maxAttempts : Int) ∧
        1 ≤ settings.maxAttempts ∧ settings.maxAttempts ≤ 4294967295 := by
  simp only [retrySettings, retryTimeout_eq, bind_ok_iff, map_ok_iff, count64_ok_iff,
    retryAttempts_ok_iff]
  constructor
  · rintro ⟨timeout, ht, attempts, ha, h⟩
    cases h
    exact ⟨ht, ha⟩
  · rintro ⟨ht, ha⟩
    exact ⟨_, ht, _, ha, rfl⟩

/-! ## Nodes -/

/-- What reading a node does to the settings that integers give, and to the projects. -/
structure Reads (node : Node) (config after : Config) : Prop where
  lockTtl : if node.name = "lock-ttl-secs" then positiveSeconds .lockTtl node = .ok after.lockTtl
    else after.lockTtl = config.lockTtl
  deferralInterval : if node.name = "deferral-interval-secs"
    then positiveSeconds .deferralInterval node = .ok after.deferralInterval
    else after.deferralInterval = config.deferralInterval
  retry : if node.name = "retry" then retrySettings node = .ok after.retry
    else after.retry = config.retry
  projects : if node.name = "project"
    then ∃ read, project node = .ok read ∧ after.projects = config.projects ++ [read]
    else after.projects = config.projects

theorem reads_of_readNode {node : Node} {config after : Config}
    (h : config.readNode node = .ok after) : Reads node config after := by
  unfold readNode at h
  -- by the name of the node, in the order in which they are tried
  split at h
  · rename_i hname
    obtain ⟨value, hv, h⟩ := bind_ok_iff.1 h
    cases h
    constructor <;> simp [hname]
  · rename_i hname
    obtain ⟨value, hv, h⟩ := bind_ok_iff.1 h
    cases h
    constructor <;> simp [hname, hv]
  · rename_i hname
    obtain ⟨value, hv, h⟩ := bind_ok_iff.1 h
    cases h
    constructor <;> simp [hname, hv]
  · rename_i hname
    obtain ⟨value, hv, h⟩ := bind_ok_iff.1 h
    cases h
    constructor <;> simp [hname]
  · rename_i hname
    obtain ⟨value, hv, h⟩ := bind_ok_iff.1 h
    cases h
    constructor <;> simp [hname]
  · rename_i hname
    cases h
    constructor <;> simp [hname]
  · rename_i hname
    obtain ⟨value, hv, h⟩ := bind_ok_iff.1 h
    cases h
    constructor <;> simp [hname, hv]
  · rename_i hname
    obtain ⟨value, hv, h⟩ := bind_ok_iff.1 h
    cases h
    constructor <;> simp [hname]
  · rename_i hname
    cases h
    constructor <;> simp [hname]
  · rename_i hname
    obtain ⟨read, hr, h⟩ := bind_ok_iff.1 h
    unfold addProject at h
    split at h
    · cases h
    · cases h
      constructor <;> simp [hname, hr]
  · rename_i hlock hdeferral _ _ _ hretry _ _ hproject
    cases h
    exact ⟨by rw [if_neg hlock], by rw [if_neg hdeferral], by rw [if_neg hretry],
      by rw [if_neg hproject]⟩

/-! ## Documents -/

theorem ofDocument_ok_iff {document : Document} {config : Config} :
    ofDocument document = .ok config ↔ document.foldlM readNode {} = .ok config ∧
      (config.needsDatabase = true → config.databaseUrl ≠ none) := by
  rw [ofDocument, bind_ok_iff]
  constructor
  · rintro ⟨read, hr, h⟩
    unfold checkDatabase at h
    split at h
    · cases h
    · rename_i hurl
      cases h
      exact ⟨hr, by simpa using hurl⟩
  · rintro ⟨hr, hurl⟩
    refine ⟨config, hr, ?_⟩
    rw [checkDatabase, if_neg (by simpa using hurl)]

def lastNode? (name : String) (document : Document) : Option Node :=
  document.reverse.find? (·.name == name)

theorem lastNode?_cons (name : String) (node : Node) (rest : Document) :
    lastNode? name (node :: rest) =
      (lastNode? name rest).or (if node.name = name then some node else none) := by
  rw [lastNode?, List.reverse_cons, List.find?_append, lastNode?, List.find?_singleton]
  simp

section Nodes

variable {α : Type} {name : String} {read : Node → Except ConfigError α} (get : Config → α)
  (hstep : ∀ {config node after}, readNode config node = .ok after →
    if node.name = name then read node = .ok (get after) else get after = get config)
  {nodes : List Node} {before after : Config} (h : nodes.foldlM readNode before = .ok after)

include hstep h

/-- Every node of a setting is read, also one that a later node overrides. -/
theorem exists_read_of_nodes :
    ∀ node ∈ nodes, node.name = name → ∃ value, read node = .ok value := by
  induction nodes generalizing before with
  | nil => exact List.forall_mem_nil _
  | cons node rest ih =>
      rw [List.foldlM_cons] at h
      obtain ⟨next, hn, h⟩ := bind_ok_iff.1 h
      refine List.forall_mem_cons.2 ⟨fun hname => ?_, ih h⟩
      have hread := hstep hn
      rw [if_pos hname] at hread
      exact ⟨_, hread⟩

/-- A setting is what its last node says, or what it was before. -/
theorem setting_of_nodes :
    match lastNode? name nodes with
    | some node => read node = .ok (get after)
    | none => get after = get before := by
  induction nodes generalizing before with
  | nil =>
      cases h
      rfl
  | cons node rest ih =>
      rw [List.foldlM_cons] at h
      obtain ⟨next, hn, h⟩ := bind_ok_iff.1 h
      have hrest := ih h
      have hread := hstep hn
      rw [lastNode?_cons]
      cases hl : lastNode? name rest with
      | some last => simpa [hl] using hrest
      | none =>
          simp only [hl] at hrest
          by_cases hname : node.name = name
          · rw [if_pos hname] at hread ⊢
            simpa [hrest] using hread
          · rw [if_neg hname] at hread ⊢
            simpa [hrest] using hread

end Nodes

/-- The projects are those of the project nodes, in the order of the document. -/
theorem projects_of_nodes {nodes : List Node} {before after : Config}
    (h : nodes.foldlM readNode before = .ok after) : ∃ reads,
      List.Forall₂ (fun node read => project node = .ok read) (nodes.filter (·.name == "project"))
        reads ∧ after.projects = before.projects ++ reads := by
  induction nodes generalizing before with
  | nil =>
      cases h
      exact ⟨[], .nil, (List.append_nil _).symm⟩
  | cons node rest ih =>
      rw [List.foldlM_cons] at h
      obtain ⟨next, hn, h⟩ := bind_ok_iff.1 h
      obtain ⟨reads, hr, ha⟩ := ih h
      have hstep := (reads_of_readNode hn).projects
      by_cases hname : node.name = "project"
      · rw [if_pos hname] at hstep
        obtain ⟨read, hp, hnext⟩ := hstep
        refine ⟨read :: reads, ?_, by rw [ha, hnext, List.append_assoc]; rfl⟩
        rw [List.filter_cons_of_pos (by simpa using hname)]
        exact .cons hp hr
      · rw [if_neg hname] at hstep
        rw [List.filter_cons_of_neg (by simpa using hname), ha, hstep]
        exact ⟨reads, hr, rfl⟩

end Config

end BuildScheduler
