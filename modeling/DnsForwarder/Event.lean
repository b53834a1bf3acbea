/-!
# Log events

What the forwarder reports while it runs: a level, a fixed message and named fields.
-/

namespace DnsForwarder

/-- How much an event matters, most talkative first. -/
inductive Level where
  | trace
  | debug
  | info
  | warn
  | error
deriving DecidableEq, Repr

/-- The value of a field. -/
inductive FieldValue where
  | text (value : String)
  | number (value : Int)
  | flag (value : Bool)
deriving DecidableEq, Repr

instance : Coe String FieldValue := ⟨.text⟩
instance : Coe Nat FieldValue := ⟨fun n => .number n⟩
instance : Coe Bool FieldValue := ⟨.flag⟩

/-- One line of the log. -/
structure Event where
  level : Level
  message : String
  fields : List (String × FieldValue)
deriving DecidableEq, Repr

namespace Level

/-- Levels in rising order. -/
def rank : Level → Nat
  | .trace => 0
  | .debug => 1
  | .info => 2
  | .warn => 3
  | .error => 4

/-- The name used in logs. -/
def name : Level → String
  | .trace => "TRACE"
  | .debug => "DEBUG"
  | .info => "INFO"
  | .warn => "WARN"
  | .error => "ERROR"

end Level

namespace Event

/-- An event of level `info`. -/
def info (message : String) (fields : List (String × FieldValue) := []) : Event :=
  ⟨.info, message, fields⟩

/-- An event of level `warn`. -/
def warn (message : String) (fields : List (String × FieldValue) := []) : Event :=
  ⟨.warn, message, fields⟩

/-- An event of level `error`. -/
def error (message : String) (fields : List (String × FieldValue) := []) : Event :=
  ⟨.error, message, fields⟩

/-- An event of level `debug`. -/
def debug (message : String) (fields : List (String × FieldValue) := []) : Event :=
  ⟨.debug, message, fields⟩

end Event

end DnsForwarder
