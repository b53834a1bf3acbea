import DnsForwarder.Event

/-!
# Where events come from

Events are told apart by the part of the forwarder that reports them. Filters know these parts by
their names; the name of a part begins with the name of the part that it belongs to.
-/

namespace DnsForwarder

/-- The parts of the forwarder that report events. -/
inductive Source where
  | program
  | configuration
  | assembly
  | resolvers
  | jobs
  | server
deriving DecidableEq, Repr

/-- The name of a part. -/
def Source.name : Source → String
  | .program => "warden_dns"
  | .configuration => "warden_dns::bootstrap::config"
  | .assembly => "warden_dns::di::dns"
  | .resolvers => "warden_dns_infrastructure::dns"
  | .jobs => "warden_dns_infrastructure::jobs"
  | .server => "warden_dns_infrastructure::dns::server"

/-- An event and where it comes from. -/
structure Report where
  source : Source
  event : Event
deriving DecidableEq, Repr

/-- The reports of a part. -/
def Source.reports (source : Source) (events : List Event) : List Report :=
  events.map fun event => ⟨source, event⟩

theorem Source.event_reports (source : Source) (events : List Event) :
    (source.reports events).map Report.event = events := by
  rw [Source.reports, List.map_map]
  exact List.map_id events

end DnsForwarder
