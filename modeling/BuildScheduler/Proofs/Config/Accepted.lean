import BuildScheduler.Proofs.Config.Settings

/-!
# Accepted configurations

A configuration that a document is accepted with is sound: every integer in it lies in its range,
its projects have keys of two parts that no other project has, their patterns and sidecars were
read, and a store in a database has the URL of one. It also follows the document: settings have the
values that the last nodes of their names give, and the projects are those of the project nodes in
their order. A node with an integer out of range is refused.
-/

namespace BuildScheduler

open Kdl (Node Document)

namespace Config

/-! ## Projects -/

theorem require_ok_iff {setting : Setting} {found : Option α} {value : α} :
    require setting found = .ok value ↔ found = some value := by
  cases found <;> simp [require]

/-- A project is what its node says; an empty pattern is none, and a sidecar reads as a container. -/
structure Describes (node : Node) (project : Project) : Prop where
  key : node.stringArgument? = some project.key
  image : node.stringProperty? "image" = some project.descriptor.image
  pattern : (node.stringProperty? "managed-ref").filter (· ≠ "") =
    project.descriptor.managedRef.map (·.text)
  sidecars : List.Forall₂
    (fun child text => child.stringArgument? = some text ∧
      ∃ container, Container.ofText text = .ok container)
    (node.children.filter (·.name == "sidecar")) project.sidecars

theorem descriptor_make_ok {image : String} {text : Option String} {descriptor : Descriptor}
    (h : Descriptor.make image text = .ok descriptor) :
    descriptor.image = image ∧ text.filter (· ≠ "") = descriptor.managedRef.map (·.text) := by
  cases text with
  | none =>
      cases h
      exact ⟨rfl, rfl⟩
  | some text =>
      rw [Descriptor.make] at h
      split at h
      · rename_i hempty
        cases h
        simp [hempty]
      · rename_i hne
        split at h
        · rename_i pattern hp
          cases h
          simp [hne, RefPattern.ofText?_text hp]
        · cases h

theorem descriptor_ok {key : String} {node : Node} {read : Descriptor}
    (h : descriptor key node = .ok read) :
    node.stringProperty? "image" = some read.image ∧
      (node.stringProperty? "managed-ref").filter (· ≠ "") = read.managedRef.map (·.text) := by
  obtain ⟨image, hi, h⟩ := bind_ok_iff.1 h
  rw [require_ok_iff] at hi
  cases hm : Descriptor.make image (node.stringProperty? "managed-ref") with
  | error error =>
      simp only [hm] at h
      cases h
  | ok made =>
      simp only [hm] at h
      cases h
      obtain ⟨himage, hpattern⟩ := descriptor_make_ok hm
      exact ⟨himage ▸ hi, hpattern⟩

theorem sidecar_ok {key : String} {node : Node} {text : String} (h : sidecar key node = .ok text) :
    node.stringArgument? = some text ∧ ∃ container, Container.ofText text = .ok container := by
  obtain ⟨found, hf, h⟩ := bind_ok_iff.1 h
  rw [require_ok_iff] at hf
  cases hc : Container.ofText found with
  | ok container =>
      simp only [hc] at h
      cases h
      exact ⟨hf, container, hc⟩
  | error error =>
      simp only [hc] at h
      cases h

theorem describes_of_project {node : Node} {read : Project} (h : project node = .ok read) :
    Describes node read := by
  obtain ⟨key, hk, h⟩ := bind_ok_iff.1 h
  rw [require_ok_iff] at hk
  cases hs : splitKey? key with
  | none =>
      simp only [hs] at h
      cases h
  | some parts =>
      obtain ⟨team, name⟩ := parts
      simp only [hs] at h
      obtain ⟨descriptor, hd, h⟩ := bind_ok_iff.1 h
      obtain ⟨sidecars, hc, h⟩ := bind_ok_iff.1 h
      cases h
      obtain ⟨himage, hpattern⟩ := descriptor_ok hd
      refine ⟨?_, himage, hpattern, (mapM_ok_iff.1 hc).imp fun _ _ => sidecar_ok⟩
      rw [hk, (splitKey?_eq_some hs).1]
      rfl

/-! ## Sound configurations -/

/-- The settings of a configuration can be used without being checked again. -/
structure Sound (config : Config) : Prop where
  lockTtl : ∃ seconds : Nat, 1 ≤ seconds ∧ seconds ≤ 18446744073709551615 ∧
    config.lockTtl.nanos = seconds * nanosPerSecond
  deferralInterval : ∃ seconds : Nat, 1 ≤ seconds ∧ seconds ≤ 18446744073709551615 ∧
    config.deferralInterval.nanos = seconds * nanosPerSecond
  attempts : 1 ≤ config.retry.maxAttempts ∧ config.retry.maxAttempts ≤ 4294967295
  timeout : ∀ limit ∈ config.retry.timeout, 0 < limit.nanos
  keyed : config.Keyed
  patterns : ∀ project ∈ config.projects, ∀ pattern ∈ project.descriptor.managedRef,
    pattern.text ≠ "" ∧ Pattern.ofText? pattern.text = some pattern.pattern
  sidecars : ∀ project ∈ config.projects, ∀ text ∈ project.sidecars,
    ∃ container, Container.ofText text = .ok container
  database : config.lockStore = .postgres ∨ config.deferralStore = .postgres →
    ∃ url, config.databaseUrl = some url
  opens : ∀ connects, config.openStores connects ≠ .error .noDatabaseUrl

/-- A configuration says what a document does: of a setting that is given twice the last value, and
every project in its place. Integers stand as they were written. -/
structure Follows (document : Document) (config : Config) : Prop where
  lockTtl : (config.lockTtl.nanos : Int) =
    ((lastNode? "lock-ttl-secs" document).bind (·.integerArgument?)).getD 10800 * nanosPerSecond
  deferralInterval : (config.deferralInterval.nanos : Int) =
    ((lastNode? "deferral-interval-secs" document).bind (·.integerArgument?)).getD 60 *
      nanosPerSecond
  attempts : (config.retry.maxAttempts : Int) =
    ((lastNode? "retry" document).bind (·.integerProperty? "max-attempts")).getD 3
  timeout : ((config.retry.timeout.elim 0 Span.nanos : Nat) : Int) =
    ((lastNode? "retry" document).bind (·.integerProperty? "timeout-ms")).getD 10000 *
      nanosPerMilli
  projects : List.Forall₂ Describes (document.filter (·.name == "project")) config.projects

/-! ## Settings of a document -/

/-- A count that is not zero is an integer from one up to the largest count. -/
theorem toNat_bounds {count : UInt64} (h : count ≠ 0) :
    1 ≤ count.toNat ∧ count.toNat ≤ 18446744073709551615 := by
  have hlt := count.toNat_lt
  have hpos : count.toNat ≠ 0 := fun hz => h (UInt64.toNat_inj.1 hz)
  omega

/-- A number of seconds is the integer that was given last, or the default. -/
theorem seconds_of_document {name : String} {setting : Setting} (get : Config → Span)
    (hstep : ∀ {config node after}, readNode config node = .ok after →
      if node.name = name then positiveSeconds setting node = .ok (get after)
      else get after = get config)
    (default : UInt64) (hne : default ≠ 0) (hdefault : get {} = Span.ofSeconds default)
    {document : Document} {config : Config} (h : document.foldlM readNode {} = .ok config) :
    ∃ seconds : Nat, 1 ≤ seconds ∧ seconds ≤ 18446744073709551615 ∧
      (get config).nanos = seconds * nanosPerSecond ∧
      ((lastNode? name document).bind (·.integerArgument?)).getD default.toNat = seconds := by
  have hlast := setting_of_nodes get hstep h
  cases hl : lastNode? name document with
  | none =>
      simp only [hl] at hlast
      obtain ⟨hone, hmost⟩ := toNat_bounds hne
      exact ⟨default.toNat, hone, hmost, by rw [hlast, hdefault]; rfl, rfl⟩
  | some node =>
      simp only [hl] at hlast
      obtain ⟨seconds, hv, hpos, hspan⟩ := positiveSeconds_ok_iff.1 hlast
      obtain ⟨hone, hmost⟩ := toNat_bounds hpos
      exact ⟨seconds.toNat, hone, hmost, by rw [← hspan]; rfl, by simp [hv]⟩

/-- The settings of retrying are those of the last node, or the defaults. -/
theorem retry_of_document {document : Document} {config : Config}
    (h : document.foldlM readNode {} = .ok config) :
    (∃ millis : UInt64,
      ((lastNode? "retry" document).bind (·.integerProperty? "timeout-ms")).getD 10000 =
          millis.toNat ∧
        (if millis = 0 then none else some (Span.ofMillis millis)) = config.retry.timeout) ∧
      ((lastNode? "retry" document).bind (·.integerProperty? "max-attempts")).getD 3 =
          config.retry.maxAttempts ∧
        1 ≤ config.retry.maxAttempts ∧ config.retry.maxAttempts ≤ 4294967295 := by
  have hlast := setting_of_nodes Config.retry (fun hr => (reads_of_readNode hr).retry) h
  cases hl : lastNode? "retry" document with
  | none =>
      simp only [hl] at hlast
      rw [hlast]
      exact ⟨⟨10000, rfl, rfl⟩, rfl, by decide, by decide⟩
  | some node =>
      simp only [hl] at hlast
      exact retrySettings_ok_iff.1 hlast

theorem openStores_ne_noDatabaseUrl {config : Config}
    (h : config.needsDatabase = true → config.databaseUrl ≠ none) (connects : String → Bool) :
    config.openStores connects ≠ .error .noDatabaseUrl := by
  rw [openStores]
  split
  · rename_i hn
    cases hu : config.databaseUrl with
    | none => exact absurd hu (h hn)
    | some url =>
        cases hc : connects url with
        | true => simp [hc]
        | false => simp [hc]
  · nofun

section Accepted

variable {document : Document} {config : Config} (h : ofDocument document = .ok config)
include h

theorem follows_of_ofDocument : config.Follows document := by
  obtain ⟨hfold, -⟩ := ofDocument_ok_iff.1 h
  obtain ⟨ttl, -, -, hlock, hlockValue⟩ := seconds_of_document Config.lockTtl
    (fun hr => (reads_of_readNode hr).lockTtl) 10800 (by decide) rfl hfold
  obtain ⟨interval, -, -, hdeferral, hdeferralValue⟩ := seconds_of_document
    Config.deferralInterval (fun hr => (reads_of_readNode hr).deferralInterval) 60 (by decide) rfl
    hfold
  obtain ⟨⟨millis, hmillis, htimeout⟩, hattempts, -⟩ := retry_of_document hfold
  obtain ⟨reads, hreads, hprojects⟩ := projects_of_nodes hfold
  refine ⟨?_, ?_, hattempts.symm, ?_, ?_⟩
  · rw [hlock, Int.natCast_mul]
    exact congrArg (· * (nanosPerSecond : Int)) hlockValue.symm
  · rw [hdeferral, Int.natCast_mul]
    exact congrArg (· * (nanosPerSecond : Int)) hdeferralValue.symm
  · rw [hmillis, ← htimeout]
    split
    · rename_i hzero
      simp [hzero]
    · simp
  · rw [show config.projects = reads by rw [hprojects]; rfl]
    exact hreads.imp fun _ _ => describes_of_project

theorem sound_of_ofDocument (hk : config.Keyed) : config.Sound := by
  obtain ⟨hfold, hurl⟩ := ofDocument_ok_iff.1 h
  obtain ⟨ttl, httl, hmostTtl, hlock, -⟩ := seconds_of_document Config.lockTtl
    (fun hr => (reads_of_readNode hr).lockTtl) 10800 (by decide) rfl hfold
  obtain ⟨interval, hinterval, hmostInterval, hdeferral, -⟩ := seconds_of_document
    Config.deferralInterval (fun hr => (reads_of_readNode hr).deferralInterval) 60 (by decide) rfl
    hfold
  obtain ⟨⟨millis, -, htimeout⟩, -, hone, hmost⟩ := retry_of_document hfold
  have hdescribes := (follows_of_ofDocument h).projects
  refine ⟨⟨ttl, httl, hmostTtl, hlock⟩, ⟨interval, hinterval, hmostInterval, hdeferral⟩,
    ⟨hone, hmost⟩, ?_, hk, ?_, ?_, ?_, openStores_ne_noDatabaseUrl hurl⟩
  · rw [← htimeout]
    split
    · nofun
    · rename_i hne
      rintro limit ⟨⟩
      rw [Span.nanos_ofMillis]
      exact Nat.mul_pos (toNat_bounds hne).1 (by decide)
  · refine forall_mem_of_forall₂ hdescribes fun node project hd pattern hp => ⟨?_, pattern.read_text⟩
    have htext := hd.pattern
    rw [Option.mem_def.1 hp, Option.map_some, Option.filter_eq_some_iff] at htext
    simpa using htext.2
  · exact forall_mem_of_forall₂ hdescribes fun node project hd =>
      forall_mem_of_forall₂ hd.sidecars fun child text hc => hc.2
  · intro hpostgres
    refine Option.ne_none_iff_exists'.1 (hurl ?_)
    simpa [needsDatabase] using hpostgres

end Accepted

/-! ## Integers out of range -/

/-- The node gives an integer setting a value that the setting cannot take. -/
def OutOfRange (node : Node) : Prop :=
  ((node.name = "lock-ttl-secs" ∨ node.name = "deferral-interval-secs") ∧
    ∃ value, node.integerArgument? = some value ∧ ¬ (1 ≤ value ∧ value ≤ 18446744073709551615)) ∨
  (node.name = "retry" ∧
    ((∃ value, node.integerProperty? "timeout-ms" = some value ∧
        ¬ (0 ≤ value ∧ value ≤ 18446744073709551615)) ∨
      ∃ value, node.integerProperty? "max-attempts" = some value ∧
        ¬ (1 ≤ value ∧ value ≤ 4294967295)))

theorem positiveSeconds_range {setting : Setting} {node : Node} {span : Span}
    (h : positiveSeconds setting node = .ok span) {value : Int}
    (hv : node.integerArgument? = some value) : 1 ≤ value ∧ value ≤ 18446744073709551615 := by
  obtain ⟨seconds, hs, hne, -⟩ := positiveSeconds_ok_iff.1 h
  obtain rfl := Option.some.inj (hv.symm.trans hs)
  have hbounds := toNat_bounds hne
  omega

/-- Every node of an accepted document is in range, also one that a later node overrides. -/
theorem not_outOfRange_of_ofDocument {document : Document} {config : Config}
    (h : ofDocument document = .ok config) : ∀ node ∈ document, ¬ OutOfRange node := by
  obtain ⟨hfold, -⟩ := ofDocument_ok_iff.1 h
  rintro node hm (⟨hname | hname, value, hv, hout⟩ | ⟨hname, hout⟩)
  · obtain ⟨span, hs⟩ := exists_read_of_nodes Config.lockTtl
      (fun hr => (reads_of_readNode hr).lockTtl) hfold node hm hname
    exact hout (positiveSeconds_range hs hv)
  · obtain ⟨span, hs⟩ := exists_read_of_nodes Config.deferralInterval
      (fun hr => (reads_of_readNode hr).deferralInterval) hfold node hm hname
    exact hout (positiveSeconds_range hs hv)
  · obtain ⟨settings, hs⟩ := exists_read_of_nodes Config.retry
      (fun hr => (reads_of_readNode hr).retry) hfold node hm hname
    obtain ⟨⟨millis, hmillis, -⟩, hattempts, hone, hmost⟩ := retrySettings_ok_iff.1 hs
    obtain ⟨value, hv, hout⟩ | ⟨value, hv, hout⟩ := hout
    · have hlt := millis.toNat_lt
      rw [hv, Option.getD_some] at hmillis
      omega
    · rw [hv, Option.getD_some] at hattempts
      omega

theorem ofText_ok_iff {text : String} {config : Config} :
    ofText text = .ok config ↔
      ∃ document, Kdl.parse text = some document ∧ ofDocument document = .ok config := by
  rw [ofText]
  cases Kdl.parse text <;> simp

/-- A text is accepted with a sound configuration that follows its document, and refused if a node
gives an integer out of range. -/
theorem ofText_sound_or_refused :
    (∀ (text : String) (config : Config), ofText text = .ok config →
      config.Sound ∧ ∃ document, Kdl.parse text = some document ∧ config.Follows document) ∧
    ∀ (text : String) (document : Document), Kdl.parse text = some document →
      (∃ node ∈ document, OutOfRange node) → ∃ error, ofText text = .error error := by
  constructor
  · intro text config h
    obtain ⟨document, hd, hc⟩ := ofText_ok_iff.1 h
    exact ⟨sound_of_ofDocument hc (keyed_of_ofText h), document, hd, follows_of_ofDocument hc⟩
  · rintro text document hd ⟨node, hm, hout⟩
    cases h : ofText text with
    | error error => exact ⟨error, rfl⟩
    | ok config =>
        obtain ⟨other, ho, hc⟩ := ofText_ok_iff.1 h
        obtain rfl := Option.some.inj (hd.symm.trans ho)
        exact absurd hout (not_outOfRange_of_ofDocument hc node hm)

def sampleText : String :=
  "lock-ttl-secs 9\nlock-store \"postgres\"\ndatabase-url \"db\"\n" ++
  "project \"a/b\" image=\"c\" managed-ref=\"d\" \x7b sidecar #\"\x7b\"name\":\"e\"\x7d\"# \x7d"

theorem sampleText_sound :
    (∃ config, ofText sampleText = .ok config ∧ config.Sound ∧ config.projects.length = 1) ∧
    ∃ error, ofText "lock-ttl-secs 18446744073709551616" = .error error := by
  constructor
  · have hok : (ofText sampleText).toOption.map (·.projects.length) = some 1 := by decide +kernel
    cases h : ofText sampleText with
    | error error =>
        rw [h] at hok
        cases hok
    | ok config =>
        rw [h] at hok
        exact ⟨config, rfl, (ofText_sound_or_refused.1 _ config h).1, Option.some.inj hok⟩
  · have hparse : (Kdl.parse "lock-ttl-secs 18446744073709551616").map (·.any fun node =>
        node.name = "lock-ttl-secs" ∧ node.integerArgument? = some 18446744073709551616) =
        some true := by
      decide +kernel
    obtain ⟨document, hd, hany⟩ := Option.map_eq_some_iff.1 hparse
    obtain ⟨node, hm, hnode⟩ := List.any_eq_true.1 hany
    obtain ⟨hname, hv⟩ := of_decide_eq_true hnode
    exact ofText_sound_or_refused.2 _ document hd
      ⟨node, hm, .inl ⟨.inl hname, _, hv, by decide⟩⟩

end Config

end BuildScheduler
