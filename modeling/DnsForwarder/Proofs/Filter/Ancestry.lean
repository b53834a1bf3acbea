import DnsForwarder.Filter.Blocklist
import Mathlib.Data.List.DropRight

/-!
# Which domains a set contains

The ancestry of a domain holds the texts that it is or that it has behind one of its dots
(`DnsForwarder.Filter.mem_ancestry`). A set contains the domains in whose ancestry it has the normal
form of an entry (`DnsForwarder.Filter.DomainSet.contains_ofList_iff`). The dots that a normal form
has lost at its end do not matter to what it has behind a dot
(`DnsForwarder.Filter.suffix_dropDots`), and letters may be put into lowercase before anything else
is done (`DnsForwarder.Filter.normalForm_of_unblanked`).

That a text `domain` is `text` or has it behind a dot is written `'.' :: text <:+ '.' :: domain`.
-/

namespace DnsForwarder

/-- Nothing is trimmed off a text without blanks. -/
theorem Text.trim_of_unblanked {text : List Char} (unblanked : ∀ c ∈ text, isBlank c = false) :
    trim text = text := by
  have front : text.dropWhile isBlank = text := by
    cases text with
    | nil => rfl
    | cons c rest =>
      rw [List.dropWhile_cons_of_neg]
      exact Bool.eq_false_iff.mp (unblanked c List.mem_cons_self)
  rw [trim, front]
  refine List.rdropWhile_eq_self_iff.mpr fun nonempty => ?_
  exact Bool.eq_false_iff.mp (unblanked _ (List.getLast_mem nonempty))

namespace Filter

/-- A text without the dots at its end. -/
abbrev dropDots (text : List Char) : List Char := Text.dropRightWhile (· == '.') text

/-- The domain without a wildcard in front is a text that it is or has behind a dot. -/
theorem suffix_dropWildcard (domain : List Char) :
    '.' :: dropWildcard domain <:+ '.' :: domain := by
  unfold dropWildcard
  split
  next rest => exact List.suffix_append ['.', '*'] _
  next => exact List.suffix_rfl

/-- A wildcard in front does not matter to what comes behind it. -/
theorem suffix_dropWildcard_of_ne {domain text : List Char} (ends : '.' :: text <:+ '.' :: domain)
    (plain : ∀ rest, text ≠ '*' :: '.' :: rest) : '.' :: text <:+ '.' :: dropWildcard domain := by
  unfold dropWildcard
  split
  next rest =>
    obtain same | ends := List.suffix_cons_iff.mp ends
    · exact absurd (List.cons.inj same).2 (plain rest)
    · obtain same | ends := List.suffix_cons_iff.mp ends
      · exact nomatch (List.cons.inj same).1
      · exact ends
  next => exact ends

/-- A text that does not start with a wildcard keeps its front. -/
theorem dropWildcard_of_ne {text : List Char} (plain : ∀ rest, text ≠ '*' :: '.' :: rest) :
    dropWildcard text = text := by
  unfold dropWildcard
  split
  next rest => exact absurd rfl (plain rest)
  next => rfl

/-- Dots that are put at the end go again. -/
theorem dropDots_append {dots : List Char} (all : ∀ c ∈ dots, c = '.') (text : List Char) :
    dropDots (text ++ dots) = dropDots text := by
  rw [dropDots, Text.dropRightWhile, List.reverse_append, List.dropWhile_append_of_pos]
  · rfl
  · intro c member
    exact beq_iff_eq.mpr (all c (List.mem_reverse.mp member))

/-- A text that does not end in a dot keeps its end. -/
theorem dropDots_of_getLast? {text : List Char} (last : text.getLast? ≠ some '.') :
    dropDots text = text := by
  refine List.rdropWhile_eq_self_iff.mpr fun nonempty dot => last ?_
  rw [List.getLast?_eq_some_getLast nonempty, beq_iff_eq.mp dot]

/-- Where the last dots are dropped, the last character is no dot. -/
theorem getLast?_dropDots (text : List Char) : (dropDots text).getLast? ≠ some '.' := by
  intro dot
  have nonempty : dropDots text ≠ [] := by
    intro none
    rw [none] at dot
    exact nomatch dot
  rw [List.getLast?_eq_some_getLast nonempty, Option.some.injEq] at dot
  exact List.rdropWhile_last_not (· == '.') text nonempty (beq_iff_eq.mpr dot)

/-- Dots go from the end of a text only until something else is there. -/
theorem dropDots_append_of_ne {text : List Char} (nonempty : dropDots text ≠ [])
    (front : List Char) :
    dropDots (front ++ text) = front ++ dropDots text := by
  have other : (text.reverse.dropWhile (· == '.')).isEmpty = false := by
    rw [List.isEmpty_eq_false_iff]
    exact fun none => nonempty (congrArg List.reverse none)
  rw [dropDots, dropDots, Text.dropRightWhile, List.reverse_append, List.dropWhile_append, other,
    if_neg Bool.false_ne_true, List.reverse_append, List.reverse_reverse, Text.dropRightWhile]

/-- What is no dot is not dropped. -/
theorem mem_dropDots {c : Char} (other : c ≠ '.') {text : List Char} (member : c ∈ text) :
    c ∈ dropDots text := by
  rw [← Text.dropRightWhile_append_dropped (· == '.') text, List.mem_append] at member
  refine member.resolve_right fun dropped => other ?_
  exact beq_iff_eq.mp (List.mem_takeWhile_imp (List.mem_reverse.mp dropped) :)

/-- A text ends the domain without its last dots, if it is an end of the domain without its last
dots. -/
theorem suffix_dropDots {domain text : List Char} (nonempty : text ≠ []) :
    '.' :: text <:+ '.' :: dropDots domain ↔
      ∃ ending, '.' :: ending <:+ '.' :: domain ∧ dropDots ending = text := by
  constructor
  · intro ends
    let dots := (domain.reverse.takeWhile (· == '.')).reverse
    have split : dropDots domain ++ dots = domain :=
      Text.dropRightWhile_append_dropped (· == '.') domain
    have last : text.getLast? ≠ some '.' := by
      have whole := getLast?_dropDots domain
      obtain same | ⟨front, same⟩ := List.suffix_cons_iff.mp ends
      · rwa [← (List.cons.inj same).2] at whole
      · rwa [← same, List.append_cons, List.getLast?_append_of_ne_nil _ nonempty] at whole
    refine ⟨text ++ dots, ?_, ?_⟩
    · rw [← split, ← List.cons_append, ← List.cons_append]
      exact List.suffix_append_self_iff.mpr ends
    · rw [dropDots_append, dropDots_of_getLast? last]
      intro c member
      exact beq_iff_eq.mp (List.mem_takeWhile_imp (List.mem_reverse.mp member) :)
  · rintro ⟨ending, ends, rfl⟩
    obtain same | ⟨front, rfl⟩ := List.suffix_cons_iff.mp ends
    · exact ⟨[], by rw [(List.cons.inj same).2, List.nil_append]⟩
    · rw [List.append_cons, dropDots_append_of_ne nonempty, ← List.append_cons]
      exact ⟨'.' :: front, rfl⟩

/-- Lowercase neither makes nor changes a character that is not a letter. -/
theorem toLower_eq_iff {mark : Char} (other : mark.isAlpha = false) (c : Char) :
    c.toLower = mark ↔ c = mark := by
  have outside : ¬ (65 ≤ mark.val.toNat ∧ mark.val.toNat ≤ 90) ∧
      ¬ (97 ≤ mark.val.toNat ∧ mark.val.toNat ≤ 122) := by
    delta Char.isAlpha Char.isUpper Char.isLower at other
    simpa [UInt32.le_iff_toNat_le] using other
  delta Char.toLower
  split
  next capital =>
    have first : 65 ≤ c.val.toNat := UInt32.le_iff_toNat_le.mp capital.1
    have last : c.val.toNat ≤ 90 := UInt32.le_iff_toNat_le.mp capital.2
    have small : (c.val + 32).toNat = c.val.toNat + 32 := by
      rw [UInt32.toNat_add, Nat.mod_eq_of_lt]
      · rfl
      · change c.val.toNat + 32 < 4294967296
        omega
    refine iff_of_false ?_ ?_
    · rintro rfl
      refine outside.2 ?_
      change 97 ≤ (c.val + 32).toNat ∧ (c.val + 32).toNat ≤ 122
      omega
    · rintro rfl
      exact outside.1 ⟨first, last⟩
  next => exact Iff.rfl

/-- The dots at the end of a text go before or after its letters are put into lowercase. -/
theorem dropDots_map_toLower (text : List Char) :
    dropDots (text.map Char.toLower) = (dropDots text).map Char.toLower := by
  have same : (· == '.') ∘ Char.toLower = (· == '.') := by
    funext c
    exact Bool.eq_iff_iff.mpr (by simpa using toLower_eq_iff rfl c)
  rw [dropDots, Text.dropRightWhile, ← List.map_reverse, List.dropWhile_map, same,
    ← List.map_reverse, dropDots, Text.dropRightWhile]

/-- Lowercase makes no wildcard. -/
theorem map_toLower_ne {text : List Char} (plain : ∀ rest, text ≠ '*' :: '.' :: rest)
    (rest : List Char) : text.map Char.toLower ≠ '*' :: '.' :: rest := by
  intro same
  match text with
  | [] => exact nomatch same
  | [_] => exact nomatch (List.cons.inj same).2
  | star :: dot :: others =>
    simp only [List.map_cons, List.cons.injEq, toLower_eq_iff (show '*'.isAlpha = false from rfl),
      toLower_eq_iff (show '.'.isAlpha = false from rfl)] at same
    exact plain others (by rw [same.1, same.2.1])

/-- A wildcard may be dropped before or after letters are put into lowercase. -/
theorem dropWildcard_map_toLower (text : List Char) :
    dropWildcard (text.map Char.toLower) = (dropWildcard text).map Char.toLower := by
  by_cases wild : ∃ rest, text = '*' :: '.' :: rest
  · obtain ⟨rest, rfl⟩ := wild
    rfl
  · have plain (rest : List Char) : text ≠ '*' :: '.' :: rest := fun same => wild ⟨rest, same⟩
    rw [dropWildcard_of_ne plain, dropWildcard_of_ne (map_toLower_ne plain)]

/-- Of a text without blanks only a wildcard and the last dots go, when it is in lowercase. -/
theorem normalForm_of_unblanked {text : List Char}
    (unblanked : ∀ c ∈ text, Text.isBlank c = false) :
    normalForm text = dropDots (dropWildcard (text.map Char.toLower)) := by
  rw [dropWildcard_map_toLower, dropDots_map_toLower, normalForm, Text.trim_of_unblanked unblanked]

/-- The normal form has no marks but those of the text. -/
theorem mem_of_mem_normalForm {mark : Char} (other : mark.isAlpha = false) {text : List Char}
    (member : mark ∈ normalForm text) : mark ∈ text := by
  obtain ⟨before, member, same⟩ := List.mem_map.mp member
  rw [(toLower_eq_iff other before).mp same] at member
  have inTrimmed : mark ∈ Text.trim text := by
    have kept : mark ∈ dropWildcard (Text.trim text) := (List.rdropWhile_prefix _ _).mem member
    unfold dropWildcard at kept
    split at kept
    next rest whole =>
      rw [whole]
      exact List.mem_cons_of_mem _ (List.mem_cons_of_mem _ kept)
    next => exact kept
  exact (List.dropWhile_sublist _).mem ((List.rdropWhile_prefix _ _).mem inTrimmed)

/-- The parents of a domain are what it has behind its dots. -/
theorem mem_parents {text domain : List Char} : text ∈ parents domain ↔ '.' :: text <:+ domain := by
  induction domain with
  | nil => simp [parents]
  | cons c rest ih =>
    rw [List.suffix_cons_iff, List.cons.injEq, ← ih, parents, eq_comm (a := '.')]
    split
    next dot => rw [List.mem_cons, and_iff_right dot]
    next other => rw [or_iff_right fun both => other both.1]

/-- The ancestry holds the domain and what it has behind a dot. -/
theorem mem_ancestry {text domain : List Char} :
    text ∈ ancestry domain ↔ text ≠ [] ∧ '.' :: text <:+ '.' :: domain := by
  rw [ancestry, List.mem_filter, List.mem_cons, mem_parents, List.suffix_cons_iff, List.cons.injEq,
    and_iff_right rfl]
  simp [and_comm]

namespace DomainSet

/-- A set contains a domain if the ancestry of its normal form has a listed entry. -/
theorem contains_ofList (domains : List String) (domain : String) :
    (ofList domains).contains domain =
      (ancestors (normalize domain)).any (entries domains).contains := by
  rw [contains, covers]
  exact congrArg _ (funext fun text => contains_listed_ofList domains text)

/-- A set contains the domains in whose ancestry the normal form of one of its entries is. -/
theorem contains_ofList_iff (domains : List String) (domain : String) :
    (ofList domains).contains domain ↔
      ∃ entry ∈ domains, normalForm entry.toList ∈ ancestry (normalForm domain.toList) := by
  rw [contains_ofList, List.any_eq_true, ancestors, normalize, String.toList_ofList]
  constructor
  · rintro ⟨_, above, listed⟩
    obtain ⟨text, member, rfl⟩ := List.mem_map.mp above
    obtain ⟨present, -⟩ := List.mem_filter.mp (List.contains_iff_mem.mp listed)
    obtain ⟨entry, present, same⟩ := List.mem_map.mp present
    exact ⟨entry, present, String.ofList_injective same ▸ member⟩
  · rintro ⟨entry, present, above⟩
    refine ⟨normalize entry, List.mem_map_of_mem above, List.contains_iff_mem.mpr ?_⟩
    refine List.mem_filter.mpr ⟨List.mem_map_of_mem present, ?_⟩
    have nonempty : normalForm entry.toList ≠ [] := (mem_ancestry.mp above).1
    simpa [normalize] using nonempty

end DomainSet

end Filter

end DnsForwarder
