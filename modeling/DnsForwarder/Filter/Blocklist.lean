import DnsForwarder.Filter.Domain
import Std.Data.HashSet

/-!
# Sets of domains

A `DomainSet` covers the domains that it lists and every domain below one of them. The blocklist is
such a set, and so is the list of domains of a policy rule.
-/

namespace DnsForwarder.Filter

/-- Listed domains, in normal form and none of them empty. -/
structure DomainSet where
  listed : Std.HashSet String

namespace DomainSet

/-- The normal forms that a list of entries puts into a set. -/
def entries (domains : List String) : List String :=
  (domains.map normalize).filter (!·.isEmpty)

/-- The set of the normal forms of the entries; what normalizes to nothing is left out. -/
def ofList (domains : List String) : DomainSet := ⟨Std.HashSet.ofList (entries domains)⟩

/-- How many different domains are listed. -/
def size (set : DomainSet) : Nat := set.listed.size

/-- Whether a domain in normal form, or one of its parents, is listed. -/
def covers (set : DomainSet) (domain : String) : Bool :=
  (ancestors domain).any set.listed.contains

/-- Whether the normal form of a text is covered. -/
def contains (set : DomainSet) (domain : String) : Bool := set.covers (normalize domain)

/-- Only the entries' normal forms are listed. -/
theorem contains_listed_ofList (domains : List String) (text : String) :
    (ofList domains).listed.contains text = (entries domains).contains text := by
  rw [ofList, Std.HashSet.contains_ofList]

end DomainSet

/-- The domains that are refused outright. -/
abbrev Blocklist := DomainSet

end DnsForwarder.Filter
