import DnsForwarder.Engine.Pipeline
import DnsForwarder.Engine.Status
import DnsForwarder.Metrics.Window

/-!
# The engine

An engine joins filters with the records that queries leave: its status and its metrics. Given what
the resolvers answer, it answers requests one after the other.
-/

namespace DnsForwarder.Engine

/-- The filters of an engine. They may fail. -/
structure Filters where
  /-- None without a blocklist. -/
  isBlocked : Option (String → Except Error Bool)
  decide : String → Except Error Filter.Decision
  policyEnabled : Bool := true

namespace Filters

/-- Filters from configured lists, which never fail. -/
def ofLists (blocklist : Option Filter.Blocklist) (policy : Filter.Policy) : Filters where
  isBlocked := blocklist.map fun set domain => .ok (set.contains domain)
  decide := fun domain => .ok (policy.decide domain)
  policyEnabled := policy.enabled

end Filters

end Engine

/-- Filters and the records that queries leave. -/
structure Engine where
  filters : Engine.Filters
  timeoutMs : Nat := 5000
  maxRetries : Nat := 2
  status : Engine.Status := {}
  metrics : Metrics.Window

namespace Engine

/-- What the pipeline has to know. -/
def settings (engine : Engine) : Settings where
  hasBlocklist := engine.filters.isBlocked.isSome
  timeoutMs := engine.timeoutMs
  maxRetries := engine.maxRetries

/-- When a sample is recorded and how long the query took, in milliseconds. -/
structure Timing where
  now : Nat
  latency : Nat

/-- What resolvers answer, from a state of theirs. -/
abbrev Forwarder (σ : Type) := Message → (timeoutMs maxRetries : Nat) → σ → Except Error Message × σ

/-- Tells a query what it asks for. -/
def tell {σ : Type} (timing : Timing) (forwarder : Forwarder σ) (request : Request)
    (state : Engine × σ) : request.Answer × (Engine × σ) :=
  let (engine, resolvers) := state
  match request with
  | .isBlocked domain =>
    (match engine.filters.isBlocked with
      | some check => check domain
      | none => .ok false, state)
  | .decide domain => (engine.filters.decide domain, state)
  | .forward query timeoutMs maxRetries =>
    let (answer, resolvers) := forwarder query timeoutMs maxRetries resolvers
    (answer, engine, resolvers)
  | .note error => ((), { engine with status := engine.status.note error }, resolvers)
  | .sample success =>
    ((), { engine with metrics := engine.metrics.record timing.now timing.latency success },
      resolvers)
  | .report _ => ((), state)

/-- Answers one request. -/
def process {σ : Type} (engine : Engine) (timing : Timing) (forwarder : Forwarder σ) (resolvers : σ)
    (request : Message) (client : Net.SocketAddress) (transport : Transport) :
    Dialogue.Outcome interface (Engine × σ) (Option Message) :=
  (answer engine.settings request client transport).run (I := interface) (tell timing forwarder)
    (engine, resolvers)

/-- The events among the things asked for. -/
def events (asked : List Request) : List Event :=
  asked.filterMap fun
    | .report event => some event
    | _ => none

/-- The status of an engine as it is reported. -/
structure StatusReport where
  running : Bool
  accepting : Bool
  policyEnabled : Bool
  lastError : Option String
deriving DecidableEq, Repr

/-- The present status. -/
def report (engine : Engine) : StatusReport where
  running := engine.status.running
  accepting := engine.status.accepting
  policyEnabled := engine.filters.policyEnabled
  lastError := engine.status.lastError.map Error.message

end Engine

end DnsForwarder
