import DnsForwarder.Toml.Statement

/-!
# TOML documents

A document is a table of keys and values. Its statements are carried out one after the other; a
header says which table the keys after it belong to.
-/

namespace DnsForwarder.Toml

/-- A document that is being read: its tables so far and the path of the open one. -/
structure Draft where
  root : Entries := []
  path : List String := []

namespace Draft

/-- Carries out a statement; none if it contradicts the ones before it. -/
def extend? (draft : Draft) : Statement → Option Draft
  | .entry path key value =>
    (draft.root.within (·.insert? path key value) draft.path).map fun root => { draft with root }
  | .table path => opened path Entries.openTable?
  | .tableArray path => opened path Entries.addTable?
where
  /-- Opens the table at a path. -/
  opened (path : List String) (act : String → Entries → Option Entries) : Option Draft :=
    match path.getLast? with
    | some key =>
      (draft.root.within (act key) path.dropLast).map fun root => { root, path }
    | none => none

end Draft

/-- The document that a text spells. -/
def parse? (text : String) : Option Entries :=
  match statements text with
  | .ok list => (list.foldlM Draft.extend? {}).map (·.root)
  | .error _ => none

end DnsForwarder.Toml
