import DnsForwarder.Engine
import DnsForwarder.Resolver.Group
import DnsForwarder.Text.Fixed

/-!
# The metrics report

A summary of the sliding window, a line for each resolver, and a line about the connections of each
resolver.
-/

namespace DnsForwarder.Job

open Resolver

/-- The line about the window. -/
def windowEvent (counts : Metrics.Counts) (windowMs : Nat) (accepting : Bool) : Event :=
  .info "Query metrics"
    [("window_secs", .number (windowMs / 1000 : Nat)), ("total", counts.total.toNat),
      ("errors", counts.errors.toNat), ("error_rate", Text.fixed 3 counts.errorRate),
      ("p50_ms", counts.p50), ("p95_ms", counts.p95), ("p99_ms", counts.p99),
      ("accepting", accepting)]

/-- The line about a resolver. -/
def resolverEvent (snapshot : Snapshot) : Event :=
  .info "Resolver status"
    [("resolver", snapshot.id), ("state", snapshot.health.name), ("healthy", snapshot.healthy),
      ("avg_latency_ms", snapshot.averageLatency.toNat), ("successes", snapshot.successes.toNat),
      ("errors", snapshot.failures.toNat), ("last_error", snapshot.lastError.getD "-")]

/-- The line about the connections of a resolver. -/
def poolEvent (id : String) (counts : SlotCounts) : Event :=
  .info "Resolver TCP pool"
    [("resolver", id), ("tcp_slots", counts.size), ("tcp_in_use", counts.reserved),
      ("tcp_open", counts.idle)]

/-- All the lines of a report at a reading of the metrics' clock. -/
def reportEvents (engine : Engine) (now : Nat) (snapshots : List Snapshot)
    (pools : List (String × SlotCounts)) : List Event :=
  windowEvent (engine.metrics.summary now) engine.metrics.windowMs engine.status.accepting ::
    snapshots.map resolverEvent ++ pools.map fun (id, counts) => poolEvent id counts

/-- The identifiers of the resolvers with the counts of their connections. -/
def poolCounts {C : Type} (group : Resolver.Group C) : List (String × SlotCounts) :=
  group.members.map fun member => (member.description.id, member.pool.table.counts)

end DnsForwarder.Job
