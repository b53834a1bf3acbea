import DnsForwarder.Message.Name.Printer
import DnsForwarder.Text.Blank
import Mathlib.Data.List.Basic

/-!
# Names as they are written

A written name has a dot behind each label. Its other dots are those with a backslash in front, and
they stand for an octet of a label. So what follows a dot of a written name starts with a label or
with what a label has behind the octet of the dot. Octets without a backslash stand for themselves
(`DnsForwarder.Name.ending_of_written`).
-/

namespace DnsForwarder

namespace Name

/-- The character with the number of an octet. -/
def character (octet : UInt8) : Char := Char.ofNat octet.toNat

/-- The octet of the dot. -/
def dot : UInt8 := 0x2E

/-- The octet of the hyphen. -/
def hyphen : UInt8 := 0x2D

/-- Letters, digits, hyphens and underscores. -/
def isHostOctet (octet : UInt8) : Bool := isPlain octet || octet == hyphen

/-- Parts with dots between them. -/
def dotted (parts : List (List Char)) : List Char := ['.'].intercalate parts

/-- The labels of a name with dots between them, without backslashes. -/
def dottedText (name : Name) : String :=
  String.ofList (dotted (name.labels.map (List.map character)))

/-- Octets as text; `first` says that they start their label. -/
def spelled : Bool → Bytes → List Char
  | _, [] => []
  | first, octet :: rest => octetText first octet ++ spelled false rest

/-- Labels as text, with a dot behind each. -/
def written (labels : List Bytes) : List Char :=
  labels.flatMap fun label => spelled true label ++ ['.']

/-- A label is written octet by octet, and only its first one may be written as the start of it. -/
theorem labelText_eq_spelled (label : Bytes) : labelText label = spelled true label := by
  have middle (octets : Bytes) : octets.flatMap (octetText false) = spelled false octets := by
    induction octets with
    | nil => rfl
    | cons octet rest ih => rw [List.flatMap_cons, ih, spelled]
  cases label with
  | nil => rfl
  | cons octet rest => rw [labelText, middle, spelled]

/-- A name with labels is written as these, with a dot behind each. -/
theorem text_of_labels {name : Name} (labels : name.labels ≠ []) :
    name.text = written name.labels := by
  rw [text, isRoot, List.isEmpty_eq_false_iff.mpr labels, if_neg Bool.false_ne_true, written]
  simp only [labelText_eq_spelled]

/-- The root is written as a dot. -/
theorem text_of_root {name : Name} (labels : name.labels = []) : name.text = ['.'] := by
  rw [text, isRoot, List.isEmpty_iff.mpr labels, if_pos rfl]

/-- The first label is written in front of the others. -/
theorem written_cons (label : Bytes) (rest : List Bytes) :
    written (label :: rest) = spelled true label ++ '.' :: written rest := by
  rw [written, List.flatMap_cons, List.append_assoc, List.singleton_append, written]

/-! ## Octets -/

/-- What holds of the 256 octets at each place holds of every octet. -/
theorem forall_octet {p : Bool → UInt8 → Prop}
    (all : ∀ (first : Bool) (number : Fin 256), p first (UInt8.ofFin number)) :
    ∀ (first : Bool) (octet : UInt8), p first octet :=
  fun first octet => all first octet.toFin

/-- An octet may be put into lowercase before or after it is written. -/
theorem octetText_lowerOctet : ∀ (first : Bool) (octet : UInt8),
    octetText first (lowerOctet octet) = (octetText first octet).map Char.toLower :=
  forall_octet (by decide +kernel)

/-- No octet is written with a blank. -/
theorem all_octetText :
    ∀ (first : Bool) (octet : UInt8), (octetText first octet).all (!Text.isBlank ·) :=
  forall_octet (by decide +kernel)

/-- No octet is written with dots alone. -/
theorem any_octetText : ∀ (first : Bool) (octet : UInt8), (octetText first octet).any (· != '.') :=
  forall_octet (by decide +kernel)

/-- Only the octet of the dot is written with a dot. -/
theorem not_mem_octetText :
    ∀ (first : Bool) (octet : UInt8), octet ≠ dot → '.' ∉ octetText first octet :=
  forall_octet (by decide +kernel)

/-- The octet of the dot is written with a backslash in front. -/
theorem octetText_dot (first : Bool) : octetText first dot = [escape, '.'] := by
  cases first <;> rfl

/-- An octet without a backslash stands for itself. -/
theorem octetText_of_unescaped : ∀ (first : Bool) (octet : UInt8), escape ∉ octetText first octet →
    octetText first octet = [character octet] ∧ character octet ≠ '.' :=
  forall_octet (by decide +kernel)

/-- The octets of host names stand for themselves, but for a hyphen at the start of a label. -/
theorem octetText_of_host : ∀ (first : Bool) (octet : UInt8), isHostOctet octet →
    (first = true → octet ≠ hyphen) → octetText first octet = [character octet] :=
  forall_octet (by decide +kernel)

/-- The star is no octet of a host name. -/
theorem character_ne_star :
    ∀ (_ : Bool) (octet : UInt8), isHostOctet octet → character octet ≠ '*' :=
  forall_octet (by decide +kernel)

/-- Lowercase makes no dots. -/
theorem lowerOctet_ne_dot : ∀ (_ : Bool) (octet : UInt8), octet ≠ dot → lowerOctet octet ≠ dot :=
  forall_octet (by decide +kernel)

/-! ## What follows a mark -/

/-- What follows a mark does not start in a part without marks. -/
theorem suffix_of_append_of_not_mem {α : Type} {mark : α} {front rest text : List α}
    (ends : mark :: text <:+ front ++ rest) (unmarked : mark ∉ front) : mark :: text <:+ rest := by
  induction front with
  | nil => exact ends
  | cons other front ih =>
    rw [List.mem_cons, not_or] at unmarked
    obtain same | ends := List.suffix_cons_iff.mp ends
    · exact absurd (List.cons.inj same).1 unmarked.1
    · exact ih ends unmarked.2

/-- What follows a mark starts before the mark between two lists, or right behind it, or later. -/
theorem suffix_append_mark {α : Type} {mark : α} {front rest text : List α}
    (ends : mark :: text <:+ front ++ mark :: rest) :
    (∃ ending, mark :: ending <:+ front ∧ text = ending ++ mark :: rest) ∨
      mark :: text <:+ mark :: rest := by
  induction front with
  | nil => exact .inr ends
  | cons other front ih =>
    obtain same | ends := List.suffix_cons_iff.mp ends
    · obtain ⟨rfl, rfl⟩ := List.cons.inj same
      exact .inl ⟨front, List.suffix_rfl, rfl⟩
    · obtain ⟨ending, inFront, same⟩ | inRest := ih ends
      · exact .inl ⟨ending, inFront.trans (List.suffix_cons _ _), same⟩
      · exact .inr inRest

/-! ## Labels -/

/-- A label may be put into lowercase before or after it is written. -/
theorem spelled_map_lowerOctet (first : Bool) (octets : Bytes) :
    spelled first (octets.map lowerOctet) = (spelled first octets).map Char.toLower := by
  induction octets generalizing first with
  | nil => rfl
  | cons octet rest ih =>
    rw [List.map_cons, spelled, spelled, List.map_append, octetText_lowerOctet, ih]

/-- No label is written with blanks. -/
theorem isBlank_spelled {first : Bool} {octets : Bytes} {c : Char}
    (member : c ∈ spelled first octets) :
    Text.isBlank c = false := by
  induction octets generalizing first with
  | nil => exact nomatch member
  | cons octet rest ih =>
    obtain here | later := List.mem_append.mp member
    · exact Bool.not_eq_true' _ |>.mp (List.all_eq_true.mp (all_octetText first octet) c here)
    · exact ih later

/-- A label that is written without backslashes stands for itself, and has no dots. -/
theorem spelled_of_unescaped {first : Bool} {octets : Bytes}
    (unescaped : escape ∉ spelled first octets) :
    spelled first octets = octets.map character ∧ '.' ∉ octets.map character := by
  induction octets generalizing first with
  | nil => exact ⟨rfl, List.not_mem_nil⟩
  | cons octet rest ih =>
    rw [spelled, List.mem_append, not_or] at unescaped
    obtain ⟨same, other⟩ := octetText_of_unescaped first octet unescaped.1
    obtain ⟨text, undotted⟩ := ih unescaped.2
    rw [spelled, same, text, List.map_cons, List.mem_cons, not_or]
    exact ⟨rfl, other.symm, undotted⟩

/-- The label of a host name stands for itself, unless it starts with a hyphen. -/
theorem spelled_of_host {first : Bool} {octets : Bytes} (host : ∀ octet ∈ octets, isHostOctet octet)
    (start : first = true → octets.head? ≠ some hyphen) :
    spelled first octets = octets.map character := by
  induction octets generalizing first with
  | nil => rfl
  | cons octet rest ih =>
    have plain := octetText_of_host first octet (host octet List.mem_cons_self)
      fun isFirst same => start isFirst (congrArg some same)
    have others : spelled false rest = rest.map character :=
      ih (fun octet member => host octet (List.mem_cons_of_mem _ member)) fun isFirst =>
        nomatch isFirst
    rw [spelled, plain, others, List.singleton_append, List.map_cons]

/-- What follows a dot of a written label is written for what follows the octet of a dot. -/
theorem suffix_spelled {first : Bool} {octets : Bytes} {text : List Char}
    (ends : '.' :: text <:+ spelled first octets) :
    ∃ piece, dot :: piece <:+ octets ∧ text = spelled false piece := by
  induction octets generalizing first with
  | nil => exact nomatch List.eq_nil_of_suffix_nil ends
  | cons octet rest ih =>
    rw [spelled] at ends
    by_cases isDot : octet = dot
    · -- The backslash is not a dot, so the text starts behind the escaped dot or later.
      subst isDot
      rw [octetText_dot] at ends
      obtain same | ends := List.suffix_cons_iff.mp ends
      · exact nomatch (List.cons.inj same).1
      · obtain same | ends := List.suffix_cons_iff.mp ends
        · exact ⟨rest, List.suffix_rfl, (List.cons.inj same).2⟩
        · obtain ⟨piece, inRest, same⟩ := ih ends
          exact ⟨piece, inRest.trans (List.suffix_cons _ _), same⟩
    · obtain ⟨piece, inRest, same⟩ :=
        ih (suffix_of_append_of_not_mem ends (not_mem_octetText first octet isDot))
      exact ⟨piece, inRest.trans (List.suffix_cons _ _), same⟩

/-- What a written label is, or has behind a dot, is written for what the label is, or has behind
the octet of a dot. -/
theorem exists_piece {label : Bytes} {ending : List Char}
    (ends : '.' :: ending <:+ '.' :: spelled true label) :
    ∃ first piece, (piece = label ∨ dot :: piece <:+ label) ∧ ending = spelled first piece := by
  obtain same | inLabel := List.suffix_cons_iff.mp ends
  · exact ⟨true, label, .inl rfl, (List.cons.inj same).2⟩
  · obtain ⟨piece, within, same⟩ := suffix_spelled inLabel
    exact ⟨false, piece, .inr within, same⟩

/-! ## Names -/

/-- A name may be put into lowercase before or after it is written. -/
theorem text_lowercase (name : Name) : name.lowercase.text = name.text.map Char.toLower := by
  have lower : name.lowercase.labels = name.labels.map (List.map lowerOctet) := rfl
  by_cases labels : name.labels = []
  · rw [text_of_root labels, text_of_root (by rw [lower, labels, List.map_nil])]
    rfl
  · rw [text_of_labels labels, text_of_labels (by rwa [lower, ne_eq, List.map_eq_nil_iff]), lower,
      written, written, List.flatMap_map, List.map_flatMap]
    simp only [spelled_map_lowerOctet, List.map_append]
    rfl

/-- A name that is written without backslashes has no dots in its labels. -/
theorem dot_not_mem_of_unescaped {name : Name} (plain : escape ∉ name.text) :
    ∀ label ∈ name.labels, dot ∉ label := by
  intro label member dotted
  rw [text_of_labels (List.ne_nil_of_mem member)] at plain
  have unescaped : escape ∉ spelled true label := fun escaped =>
    plain (List.mem_flatMap.mpr ⟨label, member, List.mem_append_left _ escaped⟩)
  exact (spelled_of_unescaped unescaped).2 (List.mem_map.mpr ⟨dot, dotted, rfl⟩)

/-- Lowercase puts no dots into labels. -/
theorem dot_not_mem_lowercase {name : Name} (undotted : ∀ label ∈ name.labels, dot ∉ label) :
    ∀ label ∈ name.lowercase.labels, dot ∉ label := by
  intro lowered member dotted
  obtain ⟨label, present, rfl⟩ := List.mem_map.mp member
  obtain ⟨octet, among, same⟩ := List.mem_map.mp dotted
  exact lowerOctet_ne_dot true octet (fun isDot => undotted label present (isDot ▸ among)) same

/-- No name is written with blanks. -/
theorem isBlank_text {name : Name} {c : Char} (member : c ∈ name.text) :
    Text.isBlank c = false := by
  by_cases labels : name.labels = []
  · rw [text_of_root labels, List.mem_singleton] at member
    rw [member]
    rfl
  · rw [text_of_labels labels, written, List.mem_flatMap] at member
    obtain ⟨label, -, member⟩ := member
    obtain member | member := List.mem_append.mp member
    · exact isBlank_spelled member
    · rw [List.mem_singleton.mp member]
      rfl

/-- The text of a name ends in the texts of the names above it. -/
theorem suffix_written {rest labels : List Bytes} (ends : rest <:+ labels) :
    '.' :: written rest <:+ '.' :: written labels := by
  obtain ⟨front, rfl⟩ := ends
  induction front with
  | nil => exact List.suffix_rfl
  | cons label front ih =>
    rw [List.cons_append, written_cons, ← List.cons_append]
    exact ih.trans (List.suffix_append _ _)

/-- Dots behind the labels are dots between them and one at the end. -/
theorem append_written (part : List Char) (labels : List Bytes) :
    part ++ '.' :: written labels = dotted (part :: labels.map (spelled true)) ++ ['.'] := by
  induction labels generalizing part with
  | nil => rw [List.map_nil, dotted, List.intercalate_singleton]; rfl
  | cons label rest ih =>
    rw [written_cons, ih, List.map_cons, dotted, dotted, List.intercalate_cons_cons,
      List.append_assoc, List.append_assoc, List.singleton_append]

/-- Labels that are written without backslashes stand for themselves, and have no dots. -/
theorem written_of_unescaped {labels : List Bytes} (unescaped : escape ∉ written labels) :
    ∀ label ∈ labels, spelled true label = label.map character ∧ '.' ∉ label.map character := by
  intro label member
  refine spelled_of_unescaped fun escaped => unescaped ?_
  exact List.mem_flatMap.mpr ⟨label, member, List.mem_append_left _ escaped⟩

/-- Without backslashes, what follows a dot of a written name is made of what a label has behind the
octet of a dot, or of a whole label, and of the labels after it. -/
theorem ending_of_written {labels : List Bytes} {text : List Char}
    (ends : '.' :: text <:+ '.' :: written labels) (nonempty : text ≠ [])
    (unescaped : escape ∉ text) :
    ∃ label tail piece, label :: tail <:+ labels ∧ (piece = label ∨ dot :: piece <:+ label) ∧
      (∀ octets ∈ piece :: tail, '.' ∉ octets.map character) ∧
      text = dotted ((piece :: tail).map (List.map character)) ++ ['.'] := by
  induction labels with
  | nil =>
    obtain same | ends := List.suffix_cons_iff.mp ends
    · exact absurd (List.cons.inj same).2 nonempty
    · exact nomatch List.eq_nil_of_suffix_nil ends
  | cons label tail ih =>
    rw [written_cons, ← List.cons_append] at ends
    -- The text starts with the first label or in it, or it starts later.
    obtain ⟨ending, inLabel, rfl⟩ | inTail := suffix_append_mark ends
    · rw [List.mem_append, List.mem_cons, not_or, not_or] at unescaped
      obtain ⟨first, piece, within, rfl⟩ := exists_piece inLabel
      obtain ⟨same, undotted⟩ := spelled_of_unescaped unescaped.1
      have plain := written_of_unescaped unescaped.2.2
      refine ⟨label, tail, piece, List.suffix_rfl, within, ?_, ?_⟩
      · exact List.forall_mem_cons.mpr ⟨undotted, fun other member => (plain other member).2⟩
      · rw [append_written, same, List.map_congr_left fun other member => (plain other member).1,
          List.map_cons]
    · obtain ⟨other, rest, piece, below, found⟩ := ih inTail
      exact ⟨other, rest, piece, below.trans (List.suffix_cons _ _), found⟩

end Name

end DnsForwarder
