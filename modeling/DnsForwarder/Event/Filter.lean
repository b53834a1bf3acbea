import DnsForwarder.Event.Source

/-!
# Choosing events

A filter is a list of rules. A rule names a level, and perhaps the sources that it is about by how
their names begin, and a field that the events have to have. Of the rules that apply the most
particular one decides, and without such a rule nothing gets through.

Rules can also be about scopes and about values of their fields. The forwarder opens no scopes, so
these rules never apply.
-/

namespace DnsForwarder

/-- A rule of a filter. -/
structure FilterRule where
  /-- How the names of the sources begin; empty for all sources. -/
  source : String := ""
  /-- The field that an event has to have. -/
  field : Option String := none
  /-- Whether the rule is about scopes. -/
  aboutScopes : Bool := false
  /-- The rank from which on events get through; `Level.off` for none. -/
  threshold : Nat
deriving DecidableEq, Repr

namespace Level

/-- A rank above all levels. -/
abbrev off : Nat := 5

end Level

namespace FilterRule

/-- Whether a rule is about an event from a source. Every event has its message as a field. -/
def applies (rule : FilterRule) (source : String) (event : Event) : Bool :=
  !rule.aboutScopes && rule.source.isPrefixOf source &&
    rule.field.all fun name => name == "message" || event.fields.any fun field => field.1 == name

/-- Whether a rule is not more particular than another one: by the length of the source's name, then
by the field. -/
def yields (rule other : FilterRule) : Bool :=
  let first := rule.source.utf8ByteSize
  let second := other.source.utf8ByteSize
  first < second ||
    first == second &&
      match rule.field, other.field with
      | none, _ => true
      | some _, none => false
      | some name, some otherName => !(otherName < name : Bool)

end FilterRule

/-- Which events get through. -/
structure EventFilter where
  rules : List FilterRule
deriving DecidableEq, Repr

namespace EventFilter

/-- The rule that decides about an event: of those that apply the most particular one, and of equals
the last one. -/
def rule? (filter : EventFilter) (source : String) (event : Event) : Option FilterRule :=
  (filter.rules.filter fun rule => rule.applies source event).foldl
    (fun best rule =>
      match best with
      | some other => if other.yields rule then some rule else best
      | none => some rule) none

/-- Whether a report gets through. -/
def admits (filter : EventFilter) (report : Report) : Bool :=
  match filter.rule? report.source.name report.event with
  | some rule => rule.threshold ≤ report.event.level.rank
  | none => false

end EventFilter

end DnsForwarder
