import DnsForwarder.Event
import DnsForwarder.Filter.Policy
import DnsForwarder.Resolver.Description
import DnsForwarder.Server.Listener

/-!
# Configuration

What a forwarder is set up with, in sections, with the values that hold where nothing is configured;
and the conditions that a configuration has to meet.
-/

namespace DnsForwarder

/-! ## Sections

A section that is left out is made of the values that its keys have when they are left out. The
reader names those values for each key, so what a section is without any key is said twice.
-/

namespace ForwardingSettings

/-- The resolvers that are asked where none are configured. -/
def usualResolvers : List Resolver.Description :=
  [{ id := "cloudflare", name := "Cloudflare", address := "1.1.1.1", port := 53, priority := 0 },
    { id := "google", name := "Google", address := "8.8.8.8", port := 53, priority := 1 }]

/-- Four connections are kept to each resolver. -/
def usualPoolSize : Nat := 4

/-- A query waits five seconds. -/
def usualQueryTimeoutMs : Nat := 5000

/-- Each resolver gets two attempts. -/
def usualMaxRetries : Nat := 2

/-- Three rounds in vain take a resolver out. -/
def usualDownAfter : Nat := 3

end ForwardingSettings

open ForwardingSettings in
/-- The resolvers and how they are asked. -/
structure ForwardingSettings where
  resolvers : List Resolver.Description := usualResolvers
  /-- How many connections are kept to each resolver. -/
  poolSize : Nat := usualPoolSize
  queryTimeoutMs : Nat := usualQueryTimeoutMs
  /-- How many attempts are made on a resolver before the next is asked. -/
  maxRetries : Nat := usualMaxRetries
  /-- How many exhausted rounds in a row take a resolver out; zero never does. -/
  downAfter : Nat := usualDownAfter
deriving DecidableEq

namespace ProbeSettings

/-- Resolvers are probed twice a minute. -/
def usualIntervalSecs : Nat := 30

/-- A probe waits two seconds. -/
def usualTimeoutMs : Nat := 2000

end ProbeSettings

open ProbeSettings in
/-- How resolvers that are not healthy are probed. -/
structure ProbeSettings where
  intervalSecs : Nat := usualIntervalSecs
  timeoutMs : Nat := usualTimeoutMs
deriving DecidableEq

namespace MetricsSettings

/-- Samples are kept for five minutes. -/
def usualWindowSecs : Nat := 300

/-- A slice of the window is half a minute long. -/
def usualSliceSecs : Nat := 30

/-- The window is reported six times a minute. -/
def usualReportIntervalSecs : Nat := 10

end MetricsSettings

open MetricsSettings in
/-- The sliding window and how often it is reported. -/
structure MetricsSettings where
  windowSecs : Nat := usualWindowSecs
  sliceSecs : Nat := usualSliceSecs
  /-- Zero means never. -/
  reportIntervalSecs : Nat := usualReportIntervalSecs
deriving DecidableEq

/-- The blocklist is on unless it is switched off. -/
def BlockingSettings.usualEnabled : Bool := true

/-- The blocklist. -/
structure BlockingSettings where
  enabled : Bool := BlockingSettings.usualEnabled
  domains : List String := []
deriving DecidableEq

/-- The policy is on unless it is switched off. -/
def PolicySettings.usualEnabled : Bool := true

/-- The policy. -/
structure PolicySettings where
  enabled : Bool := PolicySettings.usualEnabled
  rules : List Filter.Rule := []
deriving DecidableEq

namespace LoggingSettings

/-- Events are logged from the level of information on. -/
def usualLevel : String := "info"

/-- Logs are written as text. -/
def usualFormat : String := "text"

end LoggingSettings

open LoggingSettings in
/-- The log. -/
structure LoggingSettings where
  level : String := usualLevel
  format : String := usualFormat
deriving DecidableEq

/-- A whole configuration. -/
structure Config where
  server : Server.Settings := {}
  forwarding : ForwardingSettings := {}
  probes : ProbeSettings := {}
  metrics : MetricsSettings := {}
  blocking : BlockingSettings := {}
  policy : PolicySettings := {}
  logging : LoggingSettings := {}
deriving DecidableEq

namespace LoggingSettings

/-- Whether the log is written as JSON; the case of the word does not matter. -/
def isJson (settings : LoggingSettings) : Bool := settings.format.map Char.toLower == "json"

end LoggingSettings

namespace Config

/-- What may be wrong with a configuration. -/
inductive Problem where
  | zeroPort
  | noResolvers
  | noAddress (id : String)
  | noPool
  | noAttempts
  | sliceOutOfRange (windowSecs : Nat)
  | noTarget (id : String)
deriving DecidableEq, Repr

/-- A problem in words. -/
def Problem.message : Problem → String
  | .zeroPort => "DNS port cannot be 0"
  | .noResolvers => "No upstream resolvers configured"
  | .noAddress id => s!"Resolver '{id}' has no address"
  | .noPool => "upstream.tcp_pool_size must be at least 1"
  | .noAttempts => "upstream.max_retries must be at least 1"
  | .sliceOutOfRange windowSecs =>
    s!"metrics.slice_secs must be between 1 and window_secs ({windowSecs})"
  | .noTarget id => s!"Policy rule '{id}' redirects without a redirect_ip"

/-- A problem, if a condition holds. -/
def problemIf (condition : Bool) (problem : Problem) : List Problem :=
  if condition then [problem] else []

/-- Everything that is wrong with a configuration, in the order in which it is looked for. -/
def problems (config : Config) : List Problem :=
  problemIf (config.server.port == 0) .zeroPort ++
  problemIf config.forwarding.resolvers.isEmpty .noResolvers ++
  (config.forwarding.resolvers.filter fun r => Text.isAllBlank r.address).map (.noAddress ·.id) ++
  problemIf (config.forwarding.poolSize == 0) .noPool ++
  problemIf (config.forwarding.maxRetries == 0) .noAttempts ++
  problemIf
    (config.metrics.sliceSecs == 0 || config.metrics.windowSecs < config.metrics.sliceSecs)
    (.sliceOutOfRange config.metrics.windowSecs) ++
  (config.policy.rules.filter fun rule =>
    rule.action = .redirect && rule.redirectTarget.isNone).map (.noTarget ·.id)

/-- The first thing that is wrong with a configuration. -/
def firstProblem? (config : Config) : Option Problem := config.problems.head?

/-- What may be given apart from the configuration, and then takes precedence. -/
structure Overrides where
  port : Option UInt16 := none
  bindAddress : Option String := none
  logLevel : Option String := none
deriving DecidableEq, Repr

/-- Puts overrides in place. -/
def override (config : Config) (overrides : Overrides) : Config :=
  { config with
    server :=
      { config.server with
        port := overrides.port.getD config.server.port
        bindAddress := overrides.bindAddress.getD config.server.bindAddress }
    logging := { config.logging with level := overrides.logLevel.getD config.logging.level } }

/-- What is reported about a configuration when a forwarder starts. -/
def summaryEvent (config : Config) : Event :=
  .info "Configuration loaded"
    [("listen", config.server.listenAddress), ("resolvers", config.forwarding.resolvers.length),
      ("tcp_pool_size", config.forwarding.poolSize),
      ("query_timeout_ms", config.forwarding.queryTimeoutMs),
      ("max_retries", config.forwarding.maxRetries), ("blocking", config.blocking.enabled),
      ("policy_rules", config.policy.rules.length)]

end Config

end DnsForwarder
