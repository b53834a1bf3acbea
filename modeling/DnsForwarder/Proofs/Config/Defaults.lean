import DnsForwarder.Proofs.Config.Spelling

/-!
# Keys that are left out

A configuration is read from a document exactly if each key of each section that is given has a
value that it can have, and then it has these values. A key that is left out has its usual value,
whether the section has other keys or is left out itself
(`DnsForwarder.Config.ofEntries?_eq_some_iff`), and so have all keys where there is no document
(`DnsForwarder.Config.eq_default_iff`).
-/

namespace DnsForwarder

namespace Config

open Toml

/-- A section, and its keys in their order. -/
structure Section where
  table : String
  names : List String

/-- A key that may be left out: what its values spell, what it is if it is left out, and what it is
in a configuration. -/
structure OptionalKey where
  place : Section
  name : String
  Kind : Type
  Spells : Value → Kind → Prop
  usual : Kind
  get : Config → Kind

/-- What a document says of a key is what a configuration has: what its value spells if it is
given, and the same usual value whether it is left out with its whole section or alone. -/
inductive OptionalKey.Holds (entries : Entries) (config : Config) (key : OptionalKey) : Prop where
  | noSection (absent : Lacks entries key.place.table) (same : key.get config = key.usual)
  | inSection {held : Value} (present : Gives entries key.place.table held)
    (isSection : IsSection held)
    (holds : KeyHolds key.place.names held key.name key.Spells (some key.usual) (key.get config))

/-! ## The sections -/

/-- The section of the listeners and of how long connections stay. -/
def serverSection : Section :=
  ⟨"server", ["bind_address", "dns_port", "tcp_idle_timeout_secs", "drain_timeout_secs"]⟩

/-- The section of the resolvers and of how they are asked. -/
def forwardingSection : Section :=
  ⟨"upstream", ["resolvers", "tcp_pool_size", "query_timeout_ms", "max_retries", "down_after"]⟩

/-- The section of the probes that look for resolvers that have come back. -/
def probesSection : Section := ⟨"health", ["probe_interval_secs", "probe_timeout_ms"]⟩

/-- The section of the window that samples are kept in. -/
def metricsSection : Section := ⟨"metrics", ["window_secs", "slice_secs", "report_interval_secs"]⟩

/-- The section of the blocklist. -/
def blockingSection : Section := ⟨"blocking", ["enabled", "domains"]⟩

/-- The section of the policy and its rules. -/
def policySection : Section := ⟨"policy", ["enabled", "rules"]⟩

/-- The section of what is logged and how. -/
def loggingSection : Section := ⟨"logging", ["level", "format"]⟩

/-- The keys of the listeners that may be left out. -/
def serverKeys : List OptionalKey :=
  [⟨serverSection, "bind_address", String, SpellsText, "0.0.0.0", (·.server.bindAddress)⟩,
    ⟨serverSection, "dns_port", UInt16, SpellsPort, 53, (·.server.port)⟩,
    ⟨serverSection, "tcp_idle_timeout_secs", Nat, SpellsWord UInt64.size, 10,
      (·.server.tcpIdleTimeoutSecs)⟩,
    ⟨serverSection, "drain_timeout_secs", Nat, SpellsWord UInt64.size, 5,
      (·.server.drainTimeoutSecs)⟩]

/-- The keys of the resolvers that may be left out. -/
def forwardingKeys : List OptionalKey :=
  [⟨forwardingSection, "resolvers", List Resolver.Description, SpellsList SpellsResolver,
      [⟨"cloudflare", "Cloudflare", "1.1.1.1", 53, 0⟩, ⟨"google", "Google", "8.8.8.8", 53, 1⟩],
      (·.forwarding.resolvers)⟩,
    ⟨forwardingSection, "tcp_pool_size", Nat, SpellsWord UInt64.size, 4, (·.forwarding.poolSize)⟩,
    ⟨forwardingSection, "query_timeout_ms", Nat, SpellsWord UInt64.size, 5000,
      (·.forwarding.queryTimeoutMs)⟩,
    ⟨forwardingSection, "max_retries", Nat, SpellsWord UInt32.size, 2, (·.forwarding.maxRetries)⟩,
    ⟨forwardingSection, "down_after", Nat, SpellsWord UInt32.size, 3, (·.forwarding.downAfter)⟩]

/-- The keys of the probes that may be left out. -/
def probesKeys : List OptionalKey :=
  [⟨probesSection, "probe_interval_secs", Nat, SpellsWord UInt64.size, 30,
      (·.probes.intervalSecs)⟩,
    ⟨probesSection, "probe_timeout_ms", Nat, SpellsWord UInt64.size, 2000, (·.probes.timeoutMs)⟩]

/-- The keys of the window that may be left out. -/
def metricsKeys : List OptionalKey :=
  [⟨metricsSection, "window_secs", Nat, SpellsWord UInt64.size, 300, (·.metrics.windowSecs)⟩,
    ⟨metricsSection, "slice_secs", Nat, SpellsWord UInt64.size, 30, (·.metrics.sliceSecs)⟩,
    ⟨metricsSection, "report_interval_secs", Nat, SpellsWord UInt64.size, 10,
      (·.metrics.reportIntervalSecs)⟩]

/-- The keys of the blocklist that may be left out. -/
def blockingKeys : List OptionalKey :=
  [⟨blockingSection, "enabled", Bool, SpellsFlag, true, (·.blocking.enabled)⟩,
    ⟨blockingSection, "domains", List String, SpellsList SpellsText, [], (·.blocking.domains)⟩]

/-- The keys of the policy that may be left out. -/
def policyKeys : List OptionalKey :=
  [⟨policySection, "enabled", Bool, SpellsFlag, true, (·.policy.enabled)⟩,
    ⟨policySection, "rules", List Filter.Rule, SpellsList SpellsRule, [], (·.policy.rules)⟩]

/-- The keys of the log that may be left out. -/
def loggingKeys : List OptionalKey :=
  [⟨loggingSection, "level", String, SpellsText, "info", (·.logging.level)⟩,
    ⟨loggingSection, "format", String, SpellsText, "text", (·.logging.format)⟩]

/-- The keys of all the sections. -/
def optionalKeys : List OptionalKey :=
  serverKeys ++ forwardingKeys ++ probesKeys ++ metricsKeys ++ blockingKeys ++ policyKeys ++
    loggingKeys

/-- A key holds in a document without its section if it is as usual. -/
theorem OptionalKey.holds_iff_of_lacks {entries : Entries} {config : Config} {key : OptionalKey}
    (absent : Lacks entries key.place.table) :
    key.Holds entries config ↔ key.get config = key.usual := by
  constructor
  · rintro (⟨-, same⟩ | ⟨present, -, -⟩)
    · exact same
    · rw [get?_eq_none_iff.symm] at absent
      exact nomatch absent.symm.trans (get?_eq_some_iff.mpr present)
  · exact .noSection absent

/-- A key holds in a document with its section if it holds in that. -/
theorem OptionalKey.holds_iff_of_gives {entries : Entries} {config : Config} {key : OptionalKey}
    {held : Value} (present : Gives entries key.place.table held) :
    key.Holds entries config ↔ IsSection held ∧
      KeyHolds key.place.names held key.name key.Spells (some key.usual) (key.get config) := by
  rw [← get?_eq_some_iff] at present
  constructor
  · rintro (⟨absent, -⟩ | ⟨also, isSection, holds⟩)
    · exact nomatch present.symm.trans (get?_eq_none_iff.mpr absent)
    · rw [← get?_eq_some_iff, present] at also
      obtain rfl := Option.some.inj also
      exact ⟨isSection, holds⟩
  · rintro ⟨isSection, holds⟩
    exact .inSection (get?_eq_some_iff.mp present) isSection holds

/-- A section is read if its keys are: if it is left out, all of them have to be as usual, and else
its fields are built from them. -/
theorem section_iff {S : Type} (place : Section) (keys : List OptionalKey) (get : Config → S)
    {read : Value → Option S} {build : Fields → Option S} {bare : S} {config : Config}
    (reads : ∀ value, read value = (readFields place.names value).bind build)
    (nonempty : keys ≠ []) (same : ∀ key ∈ keys, key.place = place)
    (usual : get config = bare ↔ ∀ key ∈ keys, key.get config = key.usual)
    (builds : ∀ held fields, readFields place.names held = some fields →
      (build fields = some (get config) ↔ ∀ key ∈ keys, KeyHolds place.names held key.name
        key.Spells (some key.usual) (key.get config)))
    (entries : Entries) :
    field (Entries.get? entries) place.table read bare = some (get config) ↔
      ∀ key ∈ keys, key.Holds entries config := by
  unfold field
  cases present : Entries.get? entries place.table with
  | none =>
    rw [get?_eq_none_iff] at present
    dsimp only
    rw [Option.some.injEq, eq_comm, usual]
    refine forall₂_congr fun key member => ?_
    exact (OptionalKey.holds_iff_of_lacks (same key member ▸ present)).symm
  | some held =>
    rw [get?_eq_some_iff] at present
    have holds (key : OptionalKey) (member : key ∈ keys) : key.Holds entries config ↔
        IsSection held ∧ KeyHolds place.names held key.name key.Spells (some key.usual)
          (key.get config) :=
      same key member ▸ OptionalKey.holds_iff_of_gives (same key member ▸ present)
    dsimp only
    rw [reads, readFields_bind_iff _ (builds held), forall₂_congr holds]
    constructor
    · rintro ⟨isSection, each⟩ key member
      exact ⟨isSection, each key member⟩
    · intro each
      obtain ⟨first, member⟩ := List.exists_mem_of_ne_nil keys nonempty
      exact ⟨(each first member).1, fun key member => (each key member).2⟩

section Sections

variable (entries : Entries) (config : Config)

open Server.Settings in
/-- The section about the listeners is read if its keys hold. -/
theorem server_iff :
    field (Entries.get? entries) "server" readServer {} = some config.server ↔
      ∀ key ∈ serverKeys, key.Holds entries config := by
  have distinct : serverSection.names.Nodup := by decide
  refine section_iff serverSection serverKeys Config.server (fun _ => rfl)
    (List.cons_ne_nil _ _) (by simp [serverKeys]) ?_ (fun held fields keyed => ?_) entries
  · obtain ⟨⟨_, _, _, _⟩, _, _, _, _, _, _⟩ := config
    simp [serverKeys, usualBindAddress, usualPort, usualTcpIdleTimeoutSecs, usualDrainTimeoutSecs]
  · obtain ⟨⟨_, _, _, _⟩, _, _, _, _, _, _⟩ := config
    simp [serverKeys, Option.bind_eq_some_iff, field_eq_some_iff readText_iff distinct keyed,
      field_eq_some_iff readPort_iff distinct keyed,
      field_eq_some_iff (readWord_iff _) distinct keyed, usualBindAddress, usualPort,
      usualTcpIdleTimeoutSecs, usualDrainTimeoutSecs]

open ForwardingSettings in
/-- The section about the resolvers is read if its keys hold. -/
theorem forwarding_iff :
    field (Entries.get? entries) "upstream" readForwarding {} = some config.forwarding ↔
      ∀ key ∈ forwardingKeys, key.Holds entries config := by
  have distinct : forwardingSection.names.Nodup := by decide
  refine section_iff forwardingSection forwardingKeys Config.forwarding (fun _ => rfl)
    (List.cons_ne_nil _ _) (by simp [forwardingKeys]) ?_ (fun held fields keyed => ?_) entries
  · obtain ⟨_, ⟨_, _, _, _, _⟩, _, _, _, _, _⟩ := config
    simp [forwardingKeys, usualResolvers, usualPoolSize, usualQueryTimeoutMs, usualMaxRetries,
      usualDownAfter]
  · obtain ⟨_, ⟨_, _, _, _, _⟩, _, _, _, _, _⟩ := config
    simp [forwardingKeys, Option.bind_eq_some_iff,
      field_eq_some_iff (readList_iff readResolver_iff) distinct keyed,
      field_eq_some_iff (readWord_iff _) distinct keyed, usualResolvers, usualPoolSize,
      usualQueryTimeoutMs, usualMaxRetries, usualDownAfter]

open ProbeSettings in
/-- The section about probes is read if its keys hold. -/
theorem probes_iff :
    field (Entries.get? entries) "health" readProbes {} = some config.probes ↔
      ∀ key ∈ probesKeys, key.Holds entries config := by
  have distinct : probesSection.names.Nodup := by decide
  refine section_iff probesSection probesKeys Config.probes (fun _ => rfl)
    (List.cons_ne_nil _ _) (by simp [probesKeys]) ?_ (fun held fields keyed => ?_) entries
  · obtain ⟨_, _, ⟨_, _⟩, _, _, _, _⟩ := config
    simp [probesKeys, usualIntervalSecs, usualTimeoutMs]
  · obtain ⟨_, _, ⟨_, _⟩, _, _, _, _⟩ := config
    simp [probesKeys, Option.bind_eq_some_iff, field_eq_some_iff (readWord_iff _) distinct keyed,
      usualIntervalSecs, usualTimeoutMs]

open MetricsSettings in
/-- The section about metrics is read if its keys hold. -/
theorem metrics_iff :
    field (Entries.get? entries) "metrics" readMetrics {} = some config.metrics ↔
      ∀ key ∈ metricsKeys, key.Holds entries config := by
  have distinct : metricsSection.names.Nodup := by decide
  refine section_iff metricsSection metricsKeys Config.metrics (fun _ => rfl)
    (List.cons_ne_nil _ _) (by simp [metricsKeys]) ?_ (fun held fields keyed => ?_) entries
  · obtain ⟨_, _, _, ⟨_, _, _⟩, _, _, _⟩ := config
    simp [metricsKeys, usualWindowSecs, usualSliceSecs, usualReportIntervalSecs]
  · obtain ⟨_, _, _, ⟨_, _, _⟩, _, _, _⟩ := config
    simp [metricsKeys, Option.bind_eq_some_iff, field_eq_some_iff (readWord_iff _) distinct keyed,
      usualWindowSecs, usualSliceSecs, usualReportIntervalSecs]

/-- The section about the blocklist is read if its keys hold. -/
theorem blocking_iff :
    field (Entries.get? entries) "blocking" readBlocking {} = some config.blocking ↔
      ∀ key ∈ blockingKeys, key.Holds entries config := by
  have distinct : blockingSection.names.Nodup := by decide
  refine section_iff blockingSection blockingKeys Config.blocking (fun _ => rfl)
    (List.cons_ne_nil _ _) (by simp [blockingKeys]) ?_ (fun held fields keyed => ?_) entries
  · obtain ⟨_, _, _, _, ⟨_, _⟩, _, _⟩ := config
    simp [blockingKeys, BlockingSettings.usualEnabled]
  · obtain ⟨_, _, _, _, ⟨_, _⟩, _, _⟩ := config
    simp [blockingKeys, Option.bind_eq_some_iff, field_eq_some_iff readFlag_iff distinct keyed,
      field_eq_some_iff (readList_iff readText_iff) distinct keyed, BlockingSettings.usualEnabled]

/-- The section about the policy is read if its keys hold. -/
theorem policy_iff :
    field (Entries.get? entries) "policy" readPolicy {} = some config.policy ↔
      ∀ key ∈ policyKeys, key.Holds entries config := by
  have distinct : policySection.names.Nodup := by decide
  refine section_iff policySection policyKeys Config.policy (fun _ => rfl)
    (List.cons_ne_nil _ _) (by simp [policyKeys]) ?_ (fun held fields keyed => ?_) entries
  · obtain ⟨_, _, _, _, _, ⟨_, _⟩, _⟩ := config
    simp [policyKeys, PolicySettings.usualEnabled]
  · obtain ⟨_, _, _, _, _, ⟨_, _⟩, _⟩ := config
    simp [policyKeys, Option.bind_eq_some_iff, field_eq_some_iff readFlag_iff distinct keyed,
      field_eq_some_iff (readList_iff readRule_iff) distinct keyed, PolicySettings.usualEnabled]

open LoggingSettings in
/-- The section about the log is read if its keys hold. -/
theorem logging_iff :
    field (Entries.get? entries) "logging" readLogging {} = some config.logging ↔
      ∀ key ∈ loggingKeys, key.Holds entries config := by
  have distinct : loggingSection.names.Nodup := by decide
  refine section_iff loggingSection loggingKeys Config.logging (fun _ => rfl)
    (List.cons_ne_nil _ _) (by simp [loggingKeys]) ?_ (fun held fields keyed => ?_) entries
  · obtain ⟨_, _, _, _, _, _, ⟨_, _⟩⟩ := config
    simp [loggingKeys, usualLevel, usualFormat]
  · obtain ⟨_, _, _, _, _, _, ⟨_, _⟩⟩ := config
    simp [loggingKeys, Option.bind_eq_some_iff, field_eq_some_iff readText_iff distinct keyed,
      usualLevel, usualFormat]

/-- A document is read as a configuration exactly if each key of each section holds in it: it has
the value that is given, or the usual one if it or its section is left out. -/
theorem ofEntries?_eq_some_iff :
    ofEntries? entries = some config ↔ ∀ key ∈ optionalKeys, key.Holds entries config := by
  have sections : ofEntries? entries = some config ↔
      field (Entries.get? entries) "server" readServer {} = some config.server ∧
      field (Entries.get? entries) "upstream" readForwarding {} = some config.forwarding ∧
      field (Entries.get? entries) "health" readProbes {} = some config.probes ∧
      field (Entries.get? entries) "metrics" readMetrics {} = some config.metrics ∧
      field (Entries.get? entries) "blocking" readBlocking {} = some config.blocking ∧
      field (Entries.get? entries) "policy" readPolicy {} = some config.policy ∧
      field (Entries.get? entries) "logging" readLogging {} = some config.logging := by
    obtain ⟨_, _, _, _, _, _, _⟩ := config
    simp [ofEntries?, Option.bind_eq_some_iff]
  rw [sections, server_iff, forwarding_iff, probes_iff, metrics_iff, blocking_iff, policy_iff,
    logging_iff]
  simp only [optionalKeys, List.forall_mem_append, and_assoc]

end Sections

/-- Where nothing is configured, all keys are as usual. -/
theorem eq_default_iff {config : Config} :
    config = {} ↔ ∀ key ∈ optionalKeys, key.get config = key.usual := by
  -- A configuration that is set up without a document is the one that an empty document spells.
  have empty : ofEntries? [] = some {} := rfl
  have spelled := ofEntries?_eq_some_iff [] config
  rw [empty, Option.some.injEq, eq_comm] at spelled
  rw [spelled]
  refine forall₂_congr fun key _ => ?_
  exact OptionalKey.holds_iff_of_lacks nofun

end Config

end DnsForwarder
