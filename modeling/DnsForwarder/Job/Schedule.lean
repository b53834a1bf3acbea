import DnsForwarder.Event

/-!
# Jobs that come back

A job runs at regular times after its start until it is cancelled. With an interval of zero it never
runs, and neither does a job whose first time lies beyond the end of the clock; nothing is heard of
it after its start.
-/

namespace DnsForwarder.Job

/-- The jobs of a forwarder. -/
inductive Kind where
  /-- Writes the metrics to the log. -/
  | reporter
  /-- Probes resolvers that are not healthy. -/
  | recovery
deriving DecidableEq, Repr

namespace Kind

/-- The name that messages about a job begin with. -/
def name : Kind → String
  | .reporter => "MetricsReporterJob"
  | .recovery => "ResolverRecoveryJob"

/-- What a job says when it starts. -/
def greeting : Kind → String
  | .reporter => "Starting metrics reporter job"
  | .recovery => "Starting resolver recovery job"

/-- The interval of a job that is not given one, in seconds. -/
def defaultInterval : Kind → Nat
  | .reporter => 10
  | .recovery => 30

end Kind

/-- A job that was started. -/
structure Schedule where
  kind : Kind
  intervalSecs : Nat
  /-- When it was started, in milliseconds. -/
  started : Nat := 0
  cancelled : Bool := false
deriving DecidableEq, Repr

namespace Schedule

/-- How many seconds ahead a job can plan. The clock counts seconds in a signed word of 64 bits and
has been running for a day. -/
abbrev horizonSecs : Nat := UInt64.size / 2 - 86400

/-- Whether a job will run again. -/
def active (schedule : Schedule) : Bool :=
  0 < schedule.intervalSecs && schedule.intervalSecs < horizonSecs && !schedule.cancelled

/-- What is reported when a job starts. -/
def startEvents (schedule : Schedule) : List Event :=
  if schedule.intervalSecs = 0 then [.info s!"{schedule.kind.name}: disabled"]
  else [.info schedule.kind.greeting [("interval_secs", schedule.intervalSecs)]]

/-- Cancels a job. -/
def cancel (schedule : Schedule) : Schedule := { schedule with cancelled := true }

/-- What is reported when a job is cancelled. -/
def cancelEvents (schedule : Schedule) : List Event :=
  if schedule.active then [.info s!"{schedule.kind.name}: shutting down"] else []

/-- How many times a job was due before a time, its start not counted. -/
def dueBefore (schedule : Schedule) (time : Nat) : Nat :=
  (time - 1 - schedule.started) / (schedule.intervalSecs * 1000)

/-- How many times a job runs from one time on and before another. -/
def runs (schedule : Schedule) (first last : Nat) : Nat :=
  if schedule.active then schedule.dueBefore last - schedule.dueBefore first else 0

end Schedule

end DnsForwarder.Job
