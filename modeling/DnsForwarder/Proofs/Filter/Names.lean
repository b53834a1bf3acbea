import DnsForwarder.Proofs.Filter.Ancestry
import DnsForwarder.Proofs.Message.WrittenName

/-!
# Names in a set of domains

A set looks a name up as it is written. An entry that is written like a name covers the names at or
below it (`DnsForwarder.Filter.contains_of_below`), and host names are written like their labels
with dots between them, unless a label starts with a hyphen
(`DnsForwarder.Filter.contains_of_host`). If a name matches an entry without a backslash, it is at
or below it, as far as labels have no dots in them: the first label of the entry may also be what
one of the name has behind a dot (`DnsForwarder.Filter.Matches.atOrBelowPart`).
-/

namespace DnsForwarder

namespace Filter

open Name

/-- The labels of an entry: its normal form, split at dots. -/
def entryLabels (entry : String) : List (List Char) := (normalForm entry.toList).splitOn '.'

/-- The labels of an entry are the last labels of a name, but for the case of letters. -/
def AtOrBelow (name : Name) (entry : String) : Prop :=
  entryLabels entry <:+ name.lowercase.labels.map (List.map character)

/-- The same, but the first label of the entry may be only what the label of the name has behind the
octet of a dot. -/
def AtOrBelowPart (name : Name) (entry : String) : Prop :=
  ∃ label tail piece, label :: tail <:+ name.lowercase.labels ∧
    (piece = label ∨ dot :: piece <:+ label) ∧
    entryLabels entry = (piece :: tail).map (List.map character)

/-- An entry is, in its normal form, what a name is as it is written, or what that has behind one of
its dots, no matter whether the dot ends a label or is part of one. -/
def Matches (name : Name) (entry : String) : Prop :=
  normalForm entry.toList ≠ [] ∧ '.' :: normalForm entry.toList <:+ '.' :: normalForm name.text

/-- The entries that a name matches are those in its ancestry. -/
theorem matches_iff {name : Name} {entry : String} :
    Matches name entry ↔ normalForm entry.toList ∈ ancestry (normalForm name.text) :=
  mem_ancestry.symm

/-- A set contains a name that matches an entry, and no other. -/
theorem contains_iff_matches {domains : List String} {name : Name} :
    (DomainSet.ofList domains).contains (toString name) ↔
      ∃ entry ∈ domains, Matches name entry := by
  have written : (toString name).toList = name.text := String.toList_ofList
  simp only [DomainSet.contains_ofList_iff, written, matches_iff]

/-- Where no label has a dot, nothing of a label is cut off. -/
theorem AtOrBelowPart.atOrBelow {name : Name} {entry : String} (part : AtOrBelowPart name entry)
    (undotted : ∀ label ∈ name.labels, dot ∉ label) : AtOrBelow name entry := by
  obtain ⟨label, tail, piece, ends, within, labels⟩ := part
  have whole : piece = label := within.resolve_right fun behind =>
    dot_not_mem_lowercase undotted label (ends.mem List.mem_cons_self)
      (behind.mem List.mem_cons_self)
  rw [AtOrBelow, labels, whole]
  exact ends.map _

/-- As there are no blanks in a written name, only a wildcard and the last dots go from it. -/
theorem normalForm_text (name : Name) :
    normalForm name.text = dropDots (dropWildcard name.lowercase.text) := by
  rw [normalForm_of_unblanked fun c member => isBlank_text member, text_lowercase]

/-- The normal form of a written name does not tell the case of its letters. -/
theorem normalize_toString_congr {name other : Name} (alike : name.lowercase = other.lowercase) :
    normalize (toString name) = normalize (toString other) := by
  have written (name : Name) : (toString name).toList = name.text := String.toList_ofList
  rw [normalize, normalize, written, written, normalForm_text, normalForm_text, alike]

/-- A written name that is in normal form but for the dot at its end. -/
theorem normalForm_text_of_ne {name : Name} (plain : ∀ rest, name.text ≠ '*' :: '.' :: rest) :
    normalForm name.text = dropDots name.lowercase.text := by
  rw [normalForm_text, text_lowercase, dropWildcard_map_toLower, dropWildcard_of_ne plain]

/-- Lowercase takes no labels away. -/
theorem labels_lowercase_ne {name : Name} (labels : name.labels ≠ []) :
    name.lowercase.labels ≠ [] :=
  fun none => labels (List.map_eq_nil_iff.mp none)

/-- A name with labels starts with an octet. -/
theorem exists_octet {name : Name} (labels : name.labels ≠ []) :
    ∃ octet octets rest, name.labels = (octet :: octets) :: rest := by
  obtain ⟨label, rest, same⟩ := List.exists_cons_of_ne_nil labels
  have fits := name.labels_fit label (same ▸ List.mem_cons_self)
  obtain ⟨octet, octets, rfl⟩ := List.exists_cons_of_length_pos fits.1
  exact ⟨octet, octets, rest, same⟩

/-- A written name with labels is not made of dots alone. -/
theorem dropDots_written_ne {name : Name} (labels : name.labels ≠ []) :
    dropDots (written name.labels) ≠ [] := by
  obtain ⟨octet, octets, rest, same⟩ := exists_octet labels
  obtain ⟨c, member, other⟩ := List.any_eq_true.mp (any_octetText true octet)
  intro none
  refine bne_iff_ne.mp other (beq_iff_eq.mp (List.rdropWhile_eq_nil_iff.mp none c ?_))
  rw [same, written_cons, spelled]
  exact List.mem_append_left _ (List.mem_append_left _ member)

/-- An entry that is written like a name covers every name at or below it. -/
theorem contains_of_below {domains : List String} {entry : String} {name other : Name}
    (present : entry ∈ domains) (labels : name.labels ≠ [])
    (plain : ∀ rest, name.text ≠ '*' :: '.' :: rest)
    (like : normalForm entry.toList = normalForm name.text)
    (below : name.lowercase.labels <:+ other.lowercase.labels) :
    (DomainSet.ofList domains).contains (toString other) := by
  have lower := labels_lowercase_ne labels
  have otherLower : other.lowercase.labels ≠ [] := by
    intro none
    rw [none] at below
    exact lower (List.eq_nil_of_suffix_nil below)
  refine (DomainSet.contains_ofList_iff domains _).mpr ⟨entry, present, ?_⟩
  have written : (toString other).toList = other.text := String.toList_ofList
  rw [like, written, normalForm_text_of_ne plain, normalForm_text other, text_of_labels lower,
    text_of_labels otherLower, mem_ancestry]
  have nonempty := dropDots_written_ne lower
  refine ⟨nonempty, (suffix_dropDots nonempty).mpr ⟨_, ?_, rfl⟩⟩
  refine suffix_dropWildcard_of_ne (suffix_written below) ?_
  rw [← text_of_labels lower, text_lowercase]
  exact map_toLower_ne plain

section Host

variable {name : Name} (labels : name.labels ≠ [])
  (host : ∀ label ∈ name.labels, ∀ octet ∈ label, isHostOctet octet)
  (start : ∀ label ∈ name.labels, label.head? ≠ some hyphen)

include labels host start

/-- Host names are written with a dot behind their labels with dots between them, if no label starts
with a hyphen. -/
theorem text_of_host : name.text = dotted (name.labels.map (List.map character)) ++ ['.'] := by
  obtain ⟨octet, octets, rest, same⟩ := exists_octet labels
  have written : name.labels.map (spelled true) = name.labels.map (List.map character) :=
    List.map_congr_left fun label member =>
      spelled_of_host (host label member) fun _ => start label member
  rw [text_of_labels labels, ← written, same, written_cons, append_written, List.map_cons]

/-- A written host name starts with no wildcard. -/
theorem text_of_host_ne (rest : List Char) : name.text ≠ '*' :: '.' :: rest := by
  obtain ⟨octet, octets, others, same⟩ := exists_octet labels
  have member : octet :: octets ∈ name.labels := same ▸ List.mem_cons_self
  have hosted := host _ member octet List.mem_cons_self
  have plain := octetText_of_host true octet hosted fun _ hyphened =>
    start _ member (congrArg some hyphened)
  rw [text_of_labels labels, same, written_cons, spelled, plain]
  intro wild
  exact character_ne_star true octet hosted (List.cons.inj wild).1

end Host

/-- The dot at the end of a written name does not matter to its normal form. -/
theorem normalForm_dotted {name : Name} {text : List Char} (written : name.text = text ++ ['.'])
    (plain : ∀ rest, name.text ≠ '*' :: '.' :: rest) : normalForm text = normalForm name.text := by
  have unblanked : ∀ c ∈ text, Text.isBlank c = false := by
    intro c member
    have inName : c ∈ name.text := written ▸ List.mem_append_left _ member
    exact isBlank_text inName
  have plainText (rest : List Char) : text ≠ '*' :: '.' :: rest := by
    rintro rfl
    exact plain (rest ++ ['.']) written
  rw [normalForm_text_of_ne plain, normalForm_of_unblanked unblanked, dropWildcard_map_toLower,
    dropWildcard_of_ne plainText, text_lowercase, written, List.map_append, dropDots_append]
  intro c member
  exact List.mem_singleton.mp member

/-- An entry that has a host name with dots between the labels covers every name at or below it, if
no label of it starts with a hyphen. -/
theorem contains_of_host {domains : List String} {name other : Name}
    (listed : name.dottedText ∈ domains) (labels : name.labels ≠ [])
    (host : ∀ label ∈ name.labels, ∀ octet ∈ label, isHostOctet octet)
    (start : ∀ label ∈ name.labels, label.head? ≠ some hyphen)
    (below : name.lowercase.labels <:+ other.lowercase.labels) :
    (DomainSet.ofList domains).contains (toString other) := by
  have plain := text_of_host_ne labels host start
  refine contains_of_below listed labels plain ?_ below
  rw [dottedText, String.toList_ofList]
  exact normalForm_dotted (text_of_host labels host start) plain

/-- Parts with dots between them start with the first part. -/
theorem prefix_dotted (part : List Char) (rest : List (List Char)) :
    part <+: dotted (part :: rest) := by
  cases rest with
  | nil => exact ⟨[], by rw [List.append_nil, dotted, List.intercalate_singleton]⟩
  | cons next rest =>
    rw [dotted, List.intercalate_cons_cons, List.append_assoc]
    exact List.prefix_append _ _

/-- Nothing goes from the end of parts without dots, if the last of several is not empty. -/
theorem dropDots_dotted {parts : List (List Char)} (undotted : ∀ part ∈ parts, '.' ∉ part)
    (nonempty : ∀ part ∈ parts.tail, part ≠ []) : dropDots (dotted parts) = dotted parts := by
  induction parts with
  | nil => rfl
  | cons part rest ih =>
    cases rest with
    | nil =>
      rw [dotted, List.intercalate_singleton]
      refine dropDots_of_getLast? fun last => undotted part List.mem_cons_self ?_
      exact List.mem_of_getLast? last
    | cons next rest =>
      have kept : dropDots (dotted (next :: rest)) = dotted (next :: rest) :=
        ih (fun other member => undotted other (List.mem_cons_of_mem _ member))
          fun other member => nonempty other (List.mem_cons_of_mem _ member)
      have more : dotted (next :: rest) ≠ [] := by
        intro none
        have start := prefix_dotted next rest
        rw [none] at start
        exact nonempty next List.mem_cons_self (List.eq_nil_of_prefix_nil start)
      rw [dotted, List.intercalate_cons_cons, ← dotted,
        dropDots_append_of_ne (kept.symm ▸ more), kept]

/-- The ancestry of a written name holds what the name is or has behind a dot, without the dots at
its end. -/
theorem mem_ancestry_text {name : Name} {text : List Char}
    (above : text ∈ ancestry (normalForm name.text)) :
    text ≠ [] ∧ ∃ ending, '.' :: ending <:+ '.' :: name.lowercase.text ∧
      dropDots ending = text := by
  rw [normalForm_text, mem_ancestry] at above
  obtain ⟨nonempty, above⟩ := above
  obtain ⟨ending, ends, same⟩ := (suffix_dropDots nonempty).mp above
  exact ⟨nonempty, ending, ends.trans (suffix_dropWildcard _), same⟩

/-- An entry without a backslash is in the ancestry of a written name only if the name is at or
below it, with labels cut at their own dots. -/
theorem Matches.atOrBelowPart {name : Name} {entry : String} (found : Matches name entry)
    (unescaped : escape ∉ normalForm entry.toList) : AtOrBelowPart name entry := by
  obtain ⟨nonempty, ending, ends, same⟩ := mem_ancestry_text (matches_iff.mp found)
  have filled : ending ≠ [] := by
    rintro rfl
    exact nonempty same.symm
  have plain : escape ∉ ending := by
    intro escaped
    have kept : escape ∈ dropDots ending := mem_dropDots (by decide) escaped
    exact unescaped (same ▸ kept)
  have labels : name.lowercase.labels ≠ [] := by
    intro none
    rw [text_of_root none] at ends
    refine nonempty (same ▸ List.rdropWhile_eq_nil_iff.mpr fun c member => beq_iff_eq.mpr ?_)
    have mark := ends.mem (List.mem_cons_of_mem _ member)
    simpa using mark
  rw [text_of_labels labels] at ends
  obtain ⟨label, tail, piece, below, within, undotted, rfl⟩ := ending_of_written ends filled plain
  refine ⟨label, tail, piece, below, within, ?_⟩
  let parts := (piece :: tail).map (List.map character)
  have without : ∀ part ∈ parts, '.' ∉ part := by
    intro part member
    obtain ⟨octets, among, rfl⟩ := List.mem_map.mp member
    exact undotted octets among
  have longer : ∀ part ∈ parts.tail, part ≠ [] := by
    intro part member none
    obtain ⟨octets, among, rfl⟩ := List.mem_map.mp member
    have fits := name.lowercase.labels_fit octets (below.mem (List.mem_cons_of_mem _ among))
    rw [List.map_eq_nil_iff.mp none] at fits
    exact absurd fits.1 (by decide)
  -- The last dot goes, as none of the labels ends in one.
  have whole : dropDots (dotted parts ++ ['.']) = dotted parts := by
    rw [dropDots_append fun c member => List.mem_singleton.mp member,
      dropDots_dotted without longer]
  rw [entryLabels, ← same, whole, dotted]
  exact List.splitOn_intercalate _ without (List.cons_ne_nil _ _)

/-- A name that is written without backslashes matches only entries without them. -/
theorem Matches.escape_not_mem {name : Name} {entry : String} (found : Matches name entry)
    (plain : escape ∉ name.text) : escape ∉ normalForm entry.toList := by
  intro escaped
  rcases List.mem_cons.mp (found.2.mem (List.mem_cons_of_mem _ escaped)) with isDot | within
  · exact nomatch isDot
  · exact plain (mem_of_mem_normalForm rfl within)

end Filter

end DnsForwarder
