import DnsForwarder.Event
import DnsForwarder.Text.Quoted

/-!
# Lines of the log

An event is one line, either in words or as a JSON object.
-/

namespace DnsForwarder

namespace FieldValue

/-- A value in words. -/
def toText : FieldValue → String
  | .text value => value
  | .number value => toString value
  | .flag value => if value then "true" else "false"

/-- A value in JSON. -/
def toJson : FieldValue → String
  | .text value => Text.quote value
  | .number value => toString value
  | .flag value => if value then "true" else "false"

end FieldValue

namespace Event

/-- A line in words: the level, the message and the fields. -/
def toText (event : Event) : String :=
  let fields := event.fields.map fun (name, value) => s!"{name}={value.toText}"
  " ".intercalate (event.level.name :: event.message :: fields)

/-- A member of a JSON object. -/
def member (name value : String) : String := Text.quote name ++ ":" ++ value

/-- A JSON object. -/
def object (members : List String) : String :=
  "\x7b" ++ ",".intercalate members ++ "\x7d"

/-- A line in JSON: the level, and the message with the fields. -/
def toJson (event : Event) : String :=
  let fields := event.fields.map fun (name, value) => member name value.toJson
  object [member "level" (Text.quote event.level.name),
    member "fields" (object (member "message" (Text.quote event.message) :: fields))]

end Event

end DnsForwarder
