import DnsForwarder.Toml.Value

/-!
# Building tables

What headers and dotted keys do to the tables of a document. A table is defined once: by a header,
by dotted keys or between braces. Headers may pass through any table that is not between braces, and
through the last table of an array; dotted keys add to tables that dotted keys made.
-/

namespace DnsForwarder.Toml.Entries

/-- Changes the table at the end of a path, making those that are missing. -/
def within (f : Entries → Option Entries) : (path : List String) → Entries → Option Entries
  | [], entries => f entries
  | key :: rest, entries =>
    entries.alter? key fun
      | none => (within f rest []).map (.table .implied)
      | some (.table origin inner) =>
        if origin = .inline then none else (within f rest inner).map (.table origin)
      | some (.array true items) =>
        match items.getLast? with
        | some (.table origin inner) =>
          (within f rest inner).map fun inner =>
            .array true (items.dropLast ++ [.table origin inner])
        | _ => none
      | some _ => none

/-- Gives a key its value. No key is given two. -/
def define? (key : String) (value : Value) (entries : Entries) : Option Entries :=
  entries.alter? key fun
    | none => some value
    | some _ => none

/-- Gives a dotted key its value. Its last table has to be one that dotted keys made; before it, a
path may also pass through tables that longer headers made and through the last table of an
array. -/
def insert? (entries : Entries) : (path : List String) → (key : String) → Value → Option Entries
  | [], key, value => entries.define? key value
  | step :: rest, key, value =>
    entries.alter? step fun
      | none => (insert? [] rest key value).map (.table .dotted)
      | some (.table .dotted inner) => (insert? inner rest key value).map (.table .dotted)
      | some (.table .implied inner) =>
        if rest.isEmpty then none else (insert? inner rest key value).map (.table .implied)
      | some (.array true items) =>
        match items.getLast? with
        | some (.table origin inner) =>
          if rest.isEmpty then none
          else
            (insert? inner rest key value).map fun inner =>
              .array true (items.dropLast ++ [.table origin inner])
        | _ => none
      | some _ => none

/-- Opens the table of a header. -/
def openTable? (key : String) (entries : Entries) : Option Entries :=
  entries.alter? key fun
    | none => some (.table .header [])
    | some (.table .implied inner) => some (.table .header inner)
    | some _ => none

/-- Adds a table to the array of a header. -/
def addTable? (key : String) (entries : Entries) : Option Entries :=
  entries.alter? key fun
    | none => some (.array true [.table .header []])
    | some (.array true items) => some (.array true (items ++ [.table .header []]))
    | some _ => none

end DnsForwarder.Toml.Entries
