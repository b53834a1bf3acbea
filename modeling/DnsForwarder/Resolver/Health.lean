/-!
# Health of a resolver

A resolver that answers is healthy. One that failed all the attempts of a query is degraded, and
down once that happened often enough in a row.
-/

namespace DnsForwarder.Resolver

/-- How queries treat a resolver: those that are down are passed over. -/
inductive Health where
  | healthy
  | degraded
  | down
deriving DecidableEq, Repr, Inhabited

namespace Health

/-- The number of a state. -/
def code : Health → UInt8
  | .healthy => 0
  | .degraded => 1
  | .down => 2

/-- The state with a number; all the numbers from two on stand for `down`. -/
def ofCode (code : UInt8) : Health :=
  if code = 0 then .healthy else if code = 1 then .degraded else .down

/-- The name used in logs. -/
def name : Health → String
  | .healthy => "healthy"
  | .degraded => "degraded"
  | .down => "down"

/-- A health is read back from its code. -/
@[simp] theorem ofCode_code (health : Health) : ofCode health.code = health := by
  cases health <;> rfl

end Health

end DnsForwarder.Resolver
