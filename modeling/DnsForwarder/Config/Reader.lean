import DnsForwarder.Config
import DnsForwarder.Toml

/-!
# Reading a configuration

Each section is a table whose keys may be left out, as far as they have a value of their own;
unknown keys do not matter. A section may also be an array of its values in a fixed order, where the
last ones may be left out, and a date stands for a section without keys.
-/

namespace DnsForwarder.Config

open Toml

/-! ## Values -/

/-- A text. -/
def readText : Value → Option String
  | .string text => some text
  | _ => none

/-- True or false. -/
def readFlag : Value → Option Bool
  | .boolean flag => some flag
  | _ => none

/-- A whole number from `low` on and below `high`. -/
def readNumber (low high : Int) : Value → Option Int
  | .integer number => if low ≤ number ∧ number < high then some number else none
  | _ => none

/-- A natural number below a size. -/
def readWord (size : Nat) (value : Value) : Option Nat :=
  (readNumber 0 size value).map Int.toNat

/-- A port. -/
def readPort (value : Value) : Option UInt16 := (readWord UInt16.size value).map UInt16.ofNat

/-- A list. -/
def readList {α : Type} (read : Value → Option α) : Value → Option (List α)
  | .array _ items => items.mapM read
  | _ => none

/-- An action, by its name or as a table with nothing but an empty table or array under its name. -/
def readAction : Value → Option Filter.Action
  | .string name => Filter.Action.ofConfigName? name
  | .table _ [(name, .table _ [])] => Filter.Action.ofConfigName? name
  | .table _ [(name, .array _ [])] => Filter.Action.ofConfigName? name
  | _ => none

/-! ## Sections -/

/-- The values of a section by their names. -/
abbrev Fields := String → Option Value

/-- The fields of a section whose names have the given order. -/
def readFields (names : List String) : Value → Option Fields
  | .table _ entries => some fun name => Entries.get? entries name
  | .array _ items => some fun name => (names.idxOf? name).bind fun index => items[index]?
  | .dateTime _ => some fun _ => none
  | _ => none

/-- A field that may be left out. -/
def field {α : Type} (fields : Fields) (name : String) (read : Value → Option α) (missing : α) :
    Option α :=
  match fields name with
  | some value => read value
  | none => some missing

/-- A field that may not be left out. -/
def needed {α : Type} (fields : Fields) (name : String) (read : Value → Option α) : Option α :=
  (fields name).bind read

/-- A resolver. -/
def readResolver (value : Value) : Option Resolver.Description := do
  let fields ← readFields ["id", "name", "address", "port", "priority"] value
  let id ← needed fields "id" readText
  let name ← field fields "name" readText ""
  let address ← needed fields "address" readText
  let port ← field fields "port" readPort 53
  let priority ← field fields "priority" (readNumber (-(UInt32.size / 2)) (UInt32.size / 2)) 0
  some { id, name, address, port, priority }

/-- A rule of the policy. -/
def readRule (value : Value) : Option Filter.Rule := do
  let fields ← readFields ["id", "category", "action", "domains", "redirect_ip"] value
  let id ← needed fields "id" readText
  let category ← field fields "category" (fun value => (readText value).map some) none
  let action ← needed fields "action" readAction
  let domains ← field fields "domains" (readList readText) []
  let redirectTarget ← field fields "redirect_ip" (fun value => (readText value).map some) none
  some { id, category, action, domains, redirectTarget }

/-- The section about the listeners. -/
def readServer (value : Value) : Option Server.Settings := do
  let fields ← readFields
    ["bind_address", "dns_port", "tcp_idle_timeout_secs", "drain_timeout_secs"] value
  let bindAddress ← field fields "bind_address" readText Server.Settings.usualBindAddress
  let port ← field fields "dns_port" readPort Server.Settings.usualPort
  let tcpIdleTimeoutSecs ← field fields "tcp_idle_timeout_secs" (readWord UInt64.size)
    Server.Settings.usualTcpIdleTimeoutSecs
  let drainTimeoutSecs ← field fields "drain_timeout_secs" (readWord UInt64.size)
    Server.Settings.usualDrainTimeoutSecs
  some { bindAddress, port, tcpIdleTimeoutSecs, drainTimeoutSecs }

open ForwardingSettings in
/-- The section about the resolvers. -/
def readForwarding (value : Value) : Option ForwardingSettings := do
  let fields ← readFields
    ["resolvers", "tcp_pool_size", "query_timeout_ms", "max_retries", "down_after"] value
  let resolvers ← field fields "resolvers" (readList readResolver) usualResolvers
  let poolSize ← field fields "tcp_pool_size" (readWord UInt64.size) usualPoolSize
  let queryTimeoutMs ← field fields "query_timeout_ms" (readWord UInt64.size) usualQueryTimeoutMs
  let maxRetries ← field fields "max_retries" (readWord UInt32.size) usualMaxRetries
  let downAfter ← field fields "down_after" (readWord UInt32.size) usualDownAfter
  some { resolvers, poolSize, queryTimeoutMs, maxRetries, downAfter }

open ProbeSettings in
/-- The section about probes. -/
def readProbes (value : Value) : Option ProbeSettings := do
  let fields ← readFields ["probe_interval_secs", "probe_timeout_ms"] value
  let intervalSecs ← field fields "probe_interval_secs" (readWord UInt64.size) usualIntervalSecs
  let timeoutMs ← field fields "probe_timeout_ms" (readWord UInt64.size) usualTimeoutMs
  some { intervalSecs, timeoutMs }

open MetricsSettings in
/-- The section about metrics. -/
def readMetrics (value : Value) : Option MetricsSettings := do
  let fields ← readFields ["window_secs", "slice_secs", "report_interval_secs"] value
  let windowSecs ← field fields "window_secs" (readWord UInt64.size) usualWindowSecs
  let sliceSecs ← field fields "slice_secs" (readWord UInt64.size) usualSliceSecs
  let reportIntervalSecs ←
    field fields "report_interval_secs" (readWord UInt64.size) usualReportIntervalSecs
  some { windowSecs, sliceSecs, reportIntervalSecs }

/-- The section about the blocklist. -/
def readBlocking (value : Value) : Option BlockingSettings := do
  let fields ← readFields ["enabled", "domains"] value
  let enabled ← field fields "enabled" readFlag BlockingSettings.usualEnabled
  let domains ← field fields "domains" (readList readText) []
  some { enabled, domains }

/-- The section about the policy. -/
def readPolicy (value : Value) : Option PolicySettings := do
  let fields ← readFields ["enabled", "rules"] value
  let enabled ← field fields "enabled" readFlag PolicySettings.usualEnabled
  let rules ← field fields "rules" (readList readRule) []
  some { enabled, rules }

open LoggingSettings in
/-- The section about the log. -/
def readLogging (value : Value) : Option LoggingSettings := do
  let fields ← readFields ["level", "format"] value
  let level ← field fields "level" readText usualLevel
  let format ← field fields "format" readText usualFormat
  some { level, format }

/-- All the sections of a document. One that is left out is as if nothing were configured. -/
def ofEntries? (entries : Entries) : Option Config := do
  let fields : Fields := fun name => Entries.get? entries name
  let server ← field fields "server" readServer {}
  let forwarding ← field fields "upstream" readForwarding {}
  let probes ← field fields "health" readProbes {}
  let metrics ← field fields "metrics" readMetrics {}
  let blocking ← field fields "blocking" readBlocking {}
  let policy ← field fields "policy" readPolicy {}
  let logging ← field fields "logging" readLogging {}
  some { server, forwarding, probes, metrics, blocking, policy, logging }

/-- The configuration that a TOML text spells. -/
def ofToml? (text : String) : Option Config := (Toml.parse? text).bind ofEntries?

end DnsForwarder.Config
