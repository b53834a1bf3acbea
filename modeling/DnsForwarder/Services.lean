import DnsForwarder.Config
import DnsForwarder.Engine
import DnsForwarder.Event.Source
import DnsForwarder.Job.Schedule
import DnsForwarder.Resolver.Session

/-!
# The parts of a forwarder

What a configuration describes is put together in a fixed order: the resolvers, the policy, the
blocklist. A resolver that cannot be set up ends the matter. The services answer requests with their
resolvers, and two jobs go with them.
-/

namespace DnsForwarder

/-- An engine and its resolvers. -/
structure Services (C : Type) where
  engine : Engine
  group : Resolver.Group C

namespace Services

variable {C σ : Type}

/-- A number of seconds in milliseconds, as a word. -/
def milliseconds (seconds : Nat) : Nat := seconds * 1000 % UInt64.size

/-- The engine that a configuration describes. -/
def engineOf (config : Config) (now : Nat) : Engine where
  filters := .ofLists
    (if config.blocking.enabled then some (.ofList config.blocking.domains) else none)
    (.load config.policy.enabled config.policy.rules)
  timeoutMs := config.forwarding.queryTimeoutMs
  maxRetries := config.forwarding.maxRetries
  metrics := .start (milliseconds config.metrics.windowSecs)
    (milliseconds config.metrics.sliceSecs) now

/-- What is reported when the filters are ready. -/
def filterEvents (config : Config) : List Event :=
  .info "Policy engine ready"
      [("enabled", config.policy.enabled), ("rules", config.policy.rules.length)] ::
    if config.blocking.enabled then
      [.info "Blocklist loaded"
        [("domains", (Filter.DomainSet.ofList config.blocking.domains).size)]]
    else []

/-- Puts the parts together. -/
def ofConfig (C : Type) (host : Net.Host) (config : Config) (now : Nat) :
    Except Error (Services C) × List Report :=
  let (group, events) := Resolver.Group.connect C host config.forwarding.resolvers
    config.forwarding.poolSize (UInt32.ofNat config.forwarding.downAfter)
  let reports := Source.assembly.reports [.info "Initializing DNS services"] ++
    Source.resolvers.reports events
  match group with
  | .error error => (.error error, reports)
  | .ok group =>
    (.ok { engine := engineOf config now, group },
      reports ++ Source.assembly.reports (filterEvents config))

/-- The jobs in the order in which they start. -/
def jobs (config : Config) : List Job.Schedule :=
  [{ kind := .recovery, intervalSecs := config.probes.intervalSecs },
    { kind := .reporter, intervalSecs := config.metrics.reportIntervalSecs }]

/-- The resolvers as an engine sees them. -/
def forwarder (servers : Resolver.Servers C σ) : Engine.Forwarder (Resolver.Session C σ) :=
  fun query timeoutMs maxRetries session =>
    let outcome := session.exchange servers query timeoutMs maxRetries
    (outcome.value, outcome.state)

/-- Whether a request goes to the resolvers. -/
def isForward : Engine.Request → Bool
  | .forward .. => true
  | _ => false

/-- A reply, the services after it, the state of the servers and what was reported. -/
structure Reply (C σ : Type) where
  message : Option Message
  services : Services C
  servers : σ
  events : List Event

/-- Answers a request. What the resolvers report stands where the request went to them. -/
def ask (services : Services C) (servers : Resolver.Servers C σ) (state : σ)
    (timing : Engine.Timing) (request : Message) (client : Net.SocketAddress)
    (transport : Transport) : Reply C σ :=
  let session : Resolver.Session C σ := { group := services.group, servers := state }
  let outcome := services.engine.process timing (forwarder servers) session request client transport
  let (engine, session) := outcome.state
  let before := outcome.asked.takeWhile fun request => !isForward request
  let after := outcome.asked.dropWhile fun request => !isForward request
  { message := outcome.value
    services := { engine, group := session.group }
    servers := session.servers
    events := Engine.events before ++ session.log ++ Engine.events after }

/-- The resolvers as a status report shows them. -/
def snapshots (services : Services C) (now : Int) : List Resolver.Snapshot :=
  services.group.snapshots now

/-- Closes the pools. -/
def close (services : Services C) : Services C := { services with group := services.group.close }

end Services

end DnsForwarder
