import DnsForwarder.Bytes

/-!
# Domain names

A name is a list of labels of arbitrary octets. A label has 1 to 63 octets, and the name takes at
most 255 octets in a message: a length octet before each label and a zero octet at the end.
-/

namespace DnsForwarder

/-- The octets that labels take in a message, the final zero included. -/
def wireLength (labels : List Bytes) : Nat :=
  labels.foldr (fun label rest => label.length + 1 + rest) 1

/-- What a label may be. -/
def LabelFits (label : Bytes) : Prop := 1 ≤ label.length ∧ label.length ≤ 63

instance (label : Bytes) : Decidable (LabelFits label) := by
  unfold LabelFits; infer_instance

/-- A domain name, from the most specific label to the one below the root. -/
structure Name where
  labels : List Bytes
  labels_fit : ∀ label ∈ labels, LabelFits label
  wire_fits : wireLength labels ≤ 255
deriving DecidableEq

namespace Name

/-- The root has no labels. -/
def root : Name := ⟨[], fun _ member => (nomatch member), by decide⟩

instance : Inhabited Name := ⟨root⟩

/-- The name with the given labels, if they fit. -/
def ofLabels? (labels : List Bytes) : Option Name :=
  if h : (∀ label ∈ labels, LabelFits label) ∧ wireLength labels ≤ 255 then
    some ⟨labels, h.1, h.2⟩
  else
    none

/-- Whether a name is the root. -/
def isRoot (name : Name) : Bool := name.labels.isEmpty

/-- A name is as long as before when octets of its labels change. -/
theorem wireLength_map (labels : List Bytes) (f : UInt8 → UInt8) :
    wireLength (labels.map (List.map f)) = wireLength labels := by
  induction labels with
  | nil => rfl
  | cons label rest ih => simp [wireLength] at ih ⊢; rw [ih]

/-- Replaces every octet of every label. -/
def mapOctets (name : Name) (f : UInt8 → UInt8) : Name where
  labels := name.labels.map (List.map f)
  labels_fit := by
    intro label member
    obtain ⟨source, present, rfl⟩ := List.mem_map.mp member
    simpa [LabelFits] using name.labels_fit source present
  wire_fits := by rw [wireLength_map]; exact name.wire_fits

/-- An octet that is an ASCII capital becomes the small letter. -/
def lowerOctet (octet : UInt8) : UInt8 :=
  if 0x41 ≤ octet ∧ octet ≤ 0x5A then octet + 0x20 else octet

/-- The name in small letters. -/
def lowercase (name : Name) : Name := name.mapOctets lowerOctet

/-- The labels of a name make it up again. -/
theorem ofLabels?_labels (name : Name) : ofLabels? name.labels = some name := by
  rw [ofLabels?, dif_pos ⟨name.labels_fit, name.wire_fits⟩]

end Name

end DnsForwarder
