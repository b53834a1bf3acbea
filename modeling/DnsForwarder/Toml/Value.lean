/-!
# TOML values

Values of a TOML document. Tables remember how they came about and arrays whether headers may add to
them, because that decides what later lines of the document may do with them.
-/

namespace DnsForwarder.Toml

/-- How a table came about. -/
inductive Origin where
  /-- A longer header passed through it. -/
  | implied
  /-- It has a header of its own. -/
  | header
  /-- Dotted keys passed through it. -/
  | dotted
  /-- It was written between braces. -/
  | inline
deriving DecidableEq, Repr

/-- A value. Numbers with a fraction and dates are kept as they were written. -/
inductive Value where
  | string (text : String)
  | integer (number : Int)
  | float (text : String)
  | boolean (flag : Bool)
  | dateTime (text : String)
  /-- `growing` arrays are made of tables by their headers. -/
  | array (growing : Bool) (items : List Value)
  | table (origin : Origin) (entries : List (String × Value))

/-- Keys with their values in the order of the document. -/
abbrev Entries := List (String × Value)

namespace Entries

/-- The value of a key. -/
def get? (entries : Entries) (key : String) : Option Value :=
  (entries.find? fun entry => entry.1 == key).map (·.2)

/-- Computes the value of a key from its present value, if it has one. -/
def alter? (key : String) (f : Option Value → Option Value) : Entries → Option Entries
  | [] => (f none).map fun value => [(key, value)]
  | entry :: rest =>
    if entry.1 == key then (f (some entry.2)).map fun value => (key, value) :: rest
    else (alter? key f rest).map (entry :: ·)

end Entries

end DnsForwarder.Toml
