import DnsForwarder.Error

/-!
# The state of an engine

Whether the listeners run, whether queries are taken, and the latest error.
-/

namespace DnsForwarder.Engine

/-- The state that queries and listeners share. -/
structure Status where
  running : Bool := false
  accepting : Bool := false
  /-- The latest error; a success does not clear it. -/
  lastError : Option Error := none
deriving DecidableEq, Repr

namespace Status

/-- Notes an error. -/
def note (status : Status) (error : Error) : Status := { status with lastError := some error }

end Status

end DnsForwarder.Engine
