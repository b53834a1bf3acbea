import DnsForwarder.Server.Listener

/-!
# The life of a server

A server that could be bound takes queries until it is told to stop. Then it takes no more, and
waits for the queries that are being answered as long as its drain timeout lets it. A server that
cannot be bound leaves the engine as it was.
-/

namespace DnsForwarder.Server

/-- Takes up service. -/
def start (engine : Engine) : Engine :=
  { engine with status := { engine.status with running := true, accepting := true } }

/-- Takes no more queries. -/
def drain (engine : Engine) : Engine :=
  { engine with status := { engine.status with accepting := false } }

/-- Ends service. -/
def stop (engine : Engine) : Engine :=
  { engine with status := { engine.status with running := false } }

/-- What goes on while a server takes queries, and what is left when it is told to stop. -/
structure Term where
  engine : Engine
  events : List Event := []
  /-- How many connections are open and datagrams being answered at the end. -/
  inFlight : Nat := 0
  /-- How many of them are not done when the drain timeout has passed. -/
  abandoned : Nat := 0

/-- What is reported when a server is told to stop. -/
def drainingEvent (inFlight : Nat) : Event :=
  .info "DNS server draining" [("in_flight", inFlight)]

/-- What is reported when queries are given up. -/
def abandonedEvents (settings : Settings) (abandoned : Nat) : List Event :=
  if abandoned = 0 then []
  else
    [.warn "Drain timeout elapsed with queries still in flight"
      [("abandoned", abandoned), ("drain_timeout_secs", settings.drainTimeoutSecs)]]

/-- What is reported at the end. -/
def stoppedEvent : Event := .info "DNS server stopped"

/-- The end of service. -/
def finish (settings : Settings) (term : Term) : Engine × List Event :=
  (stop (drain term.engine),
    drainingEvent term.inFlight :: abandonedEvents settings term.abandoned ++ [stoppedEvent])

/-- Serves from the start to the end. -/
def serve (host : Net.Host) (settings : Settings) (term : Engine → Term) (engine : Engine) :
    Except Error Net.SocketAddress × Engine × List Event :=
  match bind host settings with
  | .error error => (.error error, engine, [bindFailure settings error])
  | .ok address =>
    let term := term (start engine)
    let (engine, events) := finish settings term
    (.ok address, engine, readyEvent address :: term.events ++ events)

end DnsForwarder.Server
