import DnsForwarder.Error
import DnsForwarder.Event
import DnsForwarder.Resolver.Health

/-!
# The history of a resolver

What is remembered about the exchanges with a resolver: how many failed and succeeded, the latest
failure, a running average of latencies, and how many rounds of attempts were used up in vain since
the last success. The health follows from that last count.

Counts are words and wrap. Times are milliseconds of the wall clock; zero stands for never.
-/

namespace DnsForwarder.Resolver

/-- What is remembered about the exchanges with a resolver. -/
structure History where
  health : Health := .healthy
  /-- Milliseconds; zero before the first sample. -/
  averageLatency : UInt32 := 0
  lastSuccess : Int := 0
  lastError : Option Error := none
  successes : UInt64 := 0
  failures : UInt64 := 0
  /-- Rounds of attempts that failed since the last success. -/
  exhaustedRounds : UInt32 := 0
deriving DecidableEq

namespace History

/-- How long a success counts as recent, in milliseconds. -/
abbrev freshness : Int := 30000

/-- The largest latency that is averaged. -/
abbrev maxLatency : Nat := UInt32.size - 1

/-- The average with one more latency: it moves an eighth of the way, and starts at the first. Sums
stop at the largest word. -/
def mixLatency (average : UInt32) (latency : Nat) : UInt32 :=
  let sample := min latency maxLatency
  if average = 0 then UInt32.ofNat sample
  else UInt32.ofNat (min (min (average.toNat * 7) maxLatency + sample) maxLatency / 8)

/-- An exchange succeeded. -/
def succeed (history : History) (latency : Nat) (now : Int) : History :=
  { history with
    health := .healthy
    averageLatency := mixLatency history.averageLatency latency
    lastSuccess := now
    lastError := none
    successes := history.successes + 1
    exhaustedRounds := 0 }

/-- An exchange failed. -/
def fail (history : History) (error : Error) : History :=
  { history with failures := history.failures + 1, lastError := some error }

/-- The health after a number of exhausted rounds. With a limit of zero a resolver never goes
down. -/
def healthAfter (rounds downAfter : UInt32) : Health :=
  if 0 < downAfter ∧ downAfter ≤ rounds then .down else .degraded

/-- All the attempts of a round failed. -/
def exhaust (history : History) (downAfter : UInt32) : History :=
  let rounds := history.exhaustedRounds + 1
  { history with exhaustedRounds := rounds, health := healthAfter rounds downAfter }

/-- Whether there was a success within the last half minute. -/
def isFresh (history : History) (now : Int) : Bool :=
  0 < history.lastSuccess && now - history.lastSuccess < freshness

/-- What is reported when an exchange succeeds. -/
def successEvents (id : String) (before : History) : List Event :=
  if before.health = .healthy then []
  else
    [.info "Resolver marked HEALTHY" [("resolver", id), ("previous", before.health.name)]]

/-- What is reported when a round is exhausted. -/
def exhaustionEvents (id : String) (before after : History) : List Event :=
  if before.health = after.health then []
  else
    [.warn "Resolver downgraded"
      [("resolver", id), ("rounds", after.exhaustedRounds.toNat), ("state", after.health.name)]]

end History

/-- A resolver as status reports show it. -/
structure Snapshot where
  id : String
  name : String
  /-- There was a recent success. -/
  healthy : Bool
  health : Health
  averageLatency : UInt32
  lastError : Option String
  lastSuccess : Option Int
  successes : UInt64
  failures : UInt64
deriving DecidableEq

namespace History

/-- The history as a status report shows it at a time. -/
def snapshot (history : History) (id name : String) (now : Int) : Snapshot where
  id
  name
  healthy := history.isFresh now
  health := history.health
  averageLatency := history.averageLatency
  lastError := history.lastError.map Error.message
  lastSuccess := if 0 < history.lastSuccess then some history.lastSuccess else none
  successes := history.successes
  failures := history.failures

end History

end DnsForwarder.Resolver
