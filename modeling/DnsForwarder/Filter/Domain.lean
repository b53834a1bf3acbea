import DnsForwarder.Text.Blank

/-!
# Domain texts

Filters compare domains as texts in a normal form. The *ancestry* of a domain is the domain itself
followed by each of its parents, where a parent is what follows a dot: `a.b.c`, `b.c`, `c`.
-/

namespace DnsForwarder.Filter

/-- Removes one `*.` from the front. -/
def dropWildcard : List Char → List Char
  | '*' :: '.' :: rest => rest
  | text => text

/-- The normal form of a domain: blanks at the ends, then one `*.` in front, then all the dots at
the end are removed, and ASCII letters are put into lowercase. -/
def normalForm (text : List Char) : List Char :=
  (Text.dropRightWhile (· == '.') (dropWildcard (Text.trim text))).map Char.toLower

/-- What follows each dot of a text, longest first. -/
def parents : List Char → List (List Char)
  | [] => []
  | c :: rest => if c = '.' then rest :: parents rest else parents rest

/-- A domain and its parents, longest first; empty texts are left out. -/
def ancestry (domain : List Char) : List (List Char) :=
  (domain :: parents domain).filter (!·.isEmpty)

/-- The normal form of a string. -/
def normalize (domain : String) : String := String.ofList (normalForm domain.toList)

/-- The ancestry of a string. -/
def ancestors (domain : String) : List String := (ancestry domain.toList).map String.ofList

/-- Lowercase keeps the length. -/
@[simp] theorem length_normalForm_le (text : List Char) :
    (normalForm text).length ≤ (dropWildcard (Text.trim text)).length := by
  simp only [normalForm, List.length_map, Text.dropRightWhile, List.length_reverse]
  exact Nat.le_trans (List.dropWhile_sublist _).length_le (by simp)

end DnsForwarder.Filter
