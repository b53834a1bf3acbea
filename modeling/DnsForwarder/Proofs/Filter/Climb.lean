import DnsForwarder.Proofs.Filter.Coverage
import Mathlib.Data.List.Range

/-!
# The walk up a domain

Going from a text to what follows its first dot, as often as there is one, passes the text and what
follows each of its dots (`DnsForwarder.Filter.climbs_iff`). These are its endings from the
beginning and from right behind each dot, by their positions; without those that are empty they are
the ancestry of the text, the longest first and none of them twice
(`DnsForwarder.Filter.ancestors_by_position`).
-/

namespace DnsForwarder

namespace Filter

/-- What follows the first dot of a text. -/
def parent? : List Char → Option (List Char)
  | [] => none
  | c :: rest => if c = '.' then some rest else parent? rest

/-- The texts that are passed on the way from a text to its parent, from there to the next, and so
on to one that has none. -/
inductive Climbs : List Char → List (List Char) → Prop where
  | top {text : List Char} (none : parent? text = none) : Climbs text [text]
  | step {text above : List Char} {others : List (List Char)} (parent : parent? text = some above)
    (climbs : Climbs above others) : Climbs text (text :: others)

/-- A part of a text starts at a position, as this is the first or there is a dot right before
it. -/
abbrev StartsPart (text : List Char) (position : Nat) : Prop :=
  position = 0 ∨ text[position - 1]? = some '.'

/-- The positions at which the parts of a text start that are not empty up to the end. -/
def partStarts (text : List Char) : List Nat :=
  (List.range text.length).filter fun position => StartsPart text position

/-- A text without a dot has no parents. -/
theorem parent?_eq_none_iff {text : List Char} : parent? text = none ↔ parents text = [] := by
  induction text with
  | nil => exact iff_of_true rfl rfl
  | cons c rest ih =>
    rw [parent?, parents]
    split
    · exact iff_of_false (Option.some_ne_none _) (List.cons_ne_nil _ _)
    · exact ih

/-- The parent of a text is the first of its parents, and the others are the parents of that. -/
theorem parent?_eq_some_iff {text above : List Char} :
    parent? text = some above ↔ parents text = above :: parents above := by
  induction text with
  | nil => exact iff_of_false (Option.some_ne_none _).symm (List.cons_ne_nil _ _).symm
  | cons c rest ih =>
    rw [parent?, parents]
    split
    · constructor
      · rintro ⟨⟩
        rfl
      · intro same
        rw [(List.cons.inj same).1]
    · exact ih

/-- A parent is shorter, which is why the walk comes to an end. -/
theorem length_lt_of_parent? {text above : List Char} (parent : parent? text = some above) :
    above.length < text.length := by
  induction text with
  | nil => exact nomatch parent
  | cons c rest ih =>
    rw [parent?] at parent
    split at parent
    · cases parent
      exact Nat.lt_succ_self _
    · exact Nat.lt_succ_of_lt (ih parent)

/-- The way up ends, as each text on it is shorter than the one before, and it passes the text and
what follows each of its dots. -/
theorem climbs_parents (text : List Char) : Climbs text (text :: parents text) := by
  induction shorter : text.length using Nat.strong_induction_on generalizing text with
  | h length ih =>
    cases parent : parent? text with
    | none =>
      rw [parent?_eq_none_iff.mp parent]
      exact .top parent
    | some above =>
      rw [parent?_eq_some_iff.mp parent]
      exact .step parent (ih above.length (shorter ▸ length_lt_of_parent? parent) above rfl)

/-- The walk passes a text and its parents, and there is no other walk. -/
theorem climbs_iff {text : List Char} {passed : List (List Char)} :
    Climbs text passed ↔ passed = text :: parents text := by
  constructor
  · intro climbs
    induction climbs with
    | top none => rw [parent?_eq_none_iff.mp none]
    | step parent _ ih => rw [ih, parent?_eq_some_iff.mp parent]
  · rintro rfl
    exact climbs_parents text

/-- What follows each dot, by the position of the dot. -/
theorem parents_eq_map_drop (text : List Char) :
    parents text =
      ((List.range text.length).filter fun dot => text[dot]? = some '.').map fun dot =>
        text.drop (dot + 1) := by
  induction text with
  | nil => rfl
  | cons c rest ih =>
    rw [parents, List.length_cons, List.range_succ_eq_map, List.filter_cons, List.filter_map]
    simp only [List.getElem?_cons_zero, Option.some.injEq, decide_eq_true_eq]
    split
    · rw [ih, List.map_cons, List.map_map]
      rfl
    · rw [ih, List.map_map]
      rfl

/-- A text and its parents are its endings from the positions at which a part starts. -/
theorem cons_parents_eq_map_drop (text : List Char) :
    text :: parents text =
      ((List.range (text.length + 1)).filter fun position => StartsPart text position).map
        text.drop := by
  rw [List.range_succ_eq_map, List.filter_cons_of_pos (by simp), List.map_cons, List.filter_map,
    List.map_map, parents_eq_map_drop]
  simp [Function.comp_def, StartsPart]

/-- The ancestry has the endings of a text from the beginning and from right behind each dot. -/
theorem ancestry_eq_map_drop (text : List Char) :
    ancestry text = (partStarts text).map text.drop := by
  rw [ancestry, cons_parents_eq_map_drop, List.range_succ, List.filter_append, List.map_append,
    List.filter_append]
  have whole : (((partStarts text).map text.drop).filter (!·.isEmpty)) =
      (partStarts text).map text.drop := by
    refine List.filter_eq_self.mpr fun ending member => ?_
    obtain ⟨position, start, rfl⟩ := List.mem_map.mp member
    have inside : position < text.length := List.mem_range.mp (List.mem_filter.mp start).1
    simpa using inside
  have rest : ((([text.length].filter fun position => StartsPart text position).map
      text.drop).filter (!·.isEmpty)) = [] := by
    refine List.filter_eq_nil_iff.mpr fun ending member => ?_
    obtain ⟨position, start, rfl⟩ := List.mem_map.mp member
    have after : position = text.length := List.mem_singleton.mp (List.mem_filter.mp start).1
    simp [after]
  rw [rest, List.append_nil]
  exact whole

/-- A start of a part lies within the text. -/
theorem mem_partStarts {text : List Char} {position : Nat} :
    position ∈ partStarts text ↔ position < text.length ∧ StartsPart text position := by
  rw [partStarts, List.mem_filter, List.mem_range, decide_eq_true_eq]

/-- The starts of the parts come in order and none of them twice. -/
theorem pairwise_partStarts (text : List Char) : (partStarts text).Pairwise (· < ·) :=
  List.pairwise_lt_range.filter _

/-- A part starts at each position of a text that is all dots. -/
theorem partStarts_replicate (count : Nat) :
    partStarts (List.replicate count '.') = List.range count := by
  rw [partStarts, List.length_replicate]
  refine List.filter_eq_self.mpr fun position member => decide_eq_true ?_
  have inside : position < count := List.mem_range.mp member
  refine .inr (List.getElem?_replicate_of_lt ?_)
  omega

/-- The ancestors of a domain are its endings from the starts of its parts. -/
theorem ancestors_eq_map (domain : String) :
    ancestors domain =
      (partStarts domain.toList).map fun position =>
        String.ofList (domain.toList.drop position) := by
  rw [ancestors, ancestry_eq_map_drop, List.map_map]
  rfl

/-- The ancestors of a domain are what it is and what it has behind a dot, if that is not empty. -/
theorem mem_ancestors {ending domain : String} :
    ending ∈ ancestors domain ↔ ending ≠ "" ∧
    (domain = ending ∨ ∃ front, domain = front ++ "." ++ ending) := by
  rw [← toList_mem_ancestry, ancestors, List.mem_map]
  constructor
  · rintro ⟨text, member, rfl⟩
    rwa [String.toList_ofList]
  · intro member
    exact ⟨ending.toList, member, String.ofList_toList⟩

/-- Each text of the ancestry is shorter than the one before it. -/
theorem pairwise_ancestors (domain : String) :
    (ancestors domain).Pairwise fun longer shorter => shorter.length < longer.length := by
  rw [ancestors_eq_map, List.pairwise_map]
  refine (pairwise_partStarts domain.toList).imp_of_mem fun first second before => ?_
  have inside := (mem_partStarts.mp second).1
  rw [String.length_ofList, String.length_ofList, List.length_drop, List.length_drop]
  omega

/-- The way from a domain to what follows its first dot, and on, ends; the ancestry has what is
passed on it and is not empty. These are the endings from the beginning and from right behind each
dot, each of these positions once and in their order, so that the longest comes first. Of a text
that is all dots they are all its endings, and the empty text has none. -/
theorem ancestors_by_position :
    (∀ domain : String,
      (∃ passed, Climbs domain.toList passed ∧
        (∀ others, Climbs domain.toList others → others = passed) ∧
        ancestors domain = (passed.filter (!·.isEmpty)).map String.ofList) ∧
      (∀ ending, ending ∈ ancestors domain ↔
        ending ≠ "" ∧ (domain = ending ∨ ∃ front, domain = front ++ "." ++ ending)) ∧
      ((ancestors domain).Pairwise fun longer shorter => shorter.length < longer.length) ∧
      ∃ positions : List Nat,
        (∀ position, position ∈ positions ↔
          position < domain.toList.length ∧
          (position = 0 ∨ domain.toList[position - 1]? = some '.')) ∧
        positions.Pairwise (· < ·) ∧
        ancestors domain = positions.map fun position =>
          String.ofList (domain.toList.drop position)) ∧
    (∀ count, ancestors (String.ofList (List.replicate count '.')) =
      (List.range count).map fun dropped => String.ofList (List.replicate (count - dropped) '.')) ∧
    ancestors "" = [] := by
  refine ⟨fun domain => ⟨?_, fun _ => mem_ancestors, pairwise_ancestors domain, ?_⟩,
    fun count => ?_, rfl⟩
  · exact ⟨_, climbs_parents _, fun _ => climbs_iff.mp, rfl⟩
  · exact ⟨_, fun _ => mem_partStarts, pairwise_partStarts _, ancestors_eq_map domain⟩
  · rw [ancestors_eq_map, String.toList_ofList, partStarts_replicate]
    simp only [List.drop_replicate]

end Filter

end DnsForwarder
