import DnsForwarder.Filter.Policy
import DnsForwarder.Proofs.Filter.Ancestry

/-!
# Which entry and which rule match

A set contains a domain if the normal form of the domain is that of an entry or has it behind a dot.
In which order the entries come and how often they do does not matter
(`DnsForwarder.Filter.DomainSet.contains_by_entries`). Of the rules of a policy, the first whose
domains contain the domain decides, whatever the later ones list
(`DnsForwarder.Filter.Policy.decide_by_first_rule`).
-/

namespace DnsForwarder

namespace Filter

/-- The ancestry of a domain has the domain and what it has behind a dot, if that is not empty. -/
theorem mem_ancestry_iff {text domain : List Char} :
    text ∈ ancestry domain ↔ text ≠ [] ∧
    (domain = text ∨ ∃ front, domain = front ++ '.' :: text) := by
  rw [mem_ancestry, List.suffix_cons_iff, List.cons.injEq, and_iff_right rfl, eq_comm (a := text)]
  exact and_congr_right' (or_congr_right (exists_congr fun _ => eq_comm))

/-- The ancestry of a string has it and what it has behind a dot, as strings. -/
theorem toList_mem_ancestry {text domain : String} :
    text.toList ∈ ancestry domain.toList ↔
      text ≠ "" ∧ (domain = text ∨ ∃ front, domain = front ++ "." ++ text) := by
  rw [mem_ancestry_iff]
  refine and_congr (not_congr String.toList_eq_nil_iff) (or_congr String.toList_inj ?_)
  constructor
  · rintro ⟨front, same⟩
    refine ⟨String.ofList front, String.toList_inj.mp ?_⟩
    rw [same, String.toList_append, String.toList_append, String.toList_ofList, List.append_assoc]
    rfl
  · rintro ⟨front, rfl⟩
    refine ⟨front.toList, ?_⟩
    rw [String.toList_append, String.toList_append, List.append_assoc]
    rfl

/-- The characters of a normal form. -/
theorem toList_normalize (domain : String) : (normalize domain).toList = normalForm domain.toList :=
  String.toList_ofList

namespace DomainSet

/-- A set contains a domain if the normal form of an entry is that of the domain or what that has
behind a dot. -/
theorem contains_iff {domains : List String} {domain : String} :
    (ofList domains).contains domain ↔
      ∃ entry ∈ domains, normalize entry ≠ "" ∧
        (normalize domain = normalize entry ∨
          ∃ front, normalize domain = front ++ "." ++ normalize entry) := by
  simp only [contains_ofList_iff, ← toList_normalize, toList_mem_ancestry]

/-- A set does not tell domains with the same normal form apart. -/
theorem contains_congr {domain other : String} (same : normalize domain = normalize other)
    (set : DomainSet) :
    set.contains domain = set.contains other := by
  rw [contains, contains, same]

/-- A set contains no less if its entries have all normal forms that another one's have. -/
theorem contains_mono {domains others : List String}
    (more : ∀ text, text ≠ "" → text ∈ domains.map normalize → text ∈ others.map normalize)
    {domain : String}
    (contained : (ofList domains).contains domain) : (ofList others).contains domain := by
  obtain ⟨entry, present, nonempty, below⟩ := contains_iff.mp contained
  obtain ⟨other, among, same⟩ := List.mem_map.mp (more _ nonempty (List.mem_map_of_mem present))
  rw [← same] at nonempty below
  exact contains_iff.mpr ⟨other, among, nonempty, below⟩

/-- A set contains the domains whose normal form is that of an entry, or has it behind a dot, if it
is not empty. So entries with the same normal forms make sets that contain the same, in whatever
order they come, however often, and with whatever entries that normalize to nothing. A domain that
only ends with the characters of entries, without a dot before them, is not contained. -/
theorem contains_by_entries (domains : List String) :
    (∀ domain, (ofList domains).contains domain ↔
      ∃ entry ∈ domains, normalize entry ≠ "" ∧
        (normalize domain = normalize entry ∨
          ∃ front, normalize domain = front ++ "." ++ normalize entry)) ∧
    (∀ others : List String,
      (∀ text, text ≠ "" → (text ∈ others.map normalize ↔ text ∈ domains.map normalize)) →
        ∀ domain, (ofList others).contains domain = (ofList domains).contains domain) ∧
    ∀ domain,
      (∀ entry ∈ domains, normalize entry ≠ "" →
        ∀ front, normalize domain = front ++ normalize entry →
        front ≠ "" ∧ front.toList.getLast? ≠ some '.') →
      (ofList domains).contains domain = false := by
  refine ⟨fun _ => contains_iff, fun others same domain => ?_, fun domain apart => ?_⟩
  · rw [Bool.eq_iff_iff]
    constructor
    · exact contains_mono fun text nonempty => (same text nonempty).mp
    · exact contains_mono fun text nonempty => (same text nonempty).mpr
  · rw [Bool.eq_false_iff]
    intro contained
    obtain ⟨entry, present, nonempty, same | ⟨front, same⟩⟩ := contains_iff.mp contained
    · rw [← String.empty_append (s := normalize entry)] at same
      exact (apart entry present nonempty _ same).1 rfl
    · refine (apart entry present nonempty _ same).2 ?_
      rw [String.toList_append]
      exact List.getLast?_concat

end DomainSet

namespace Policy

/-- A rule is the first whose domains contain a domain, and it has a place in the list. -/
structure RuledBy (rules : List Rule) (domain : String) (place : Nat) (rule : Rule) : Prop where
  present : rules[place]? = some rule
  contained : (DomainSet.ofList rule.domains).contains domain
  first : ∀ earlier ∈ rules.take place, (DomainSet.ofList earlier.domains).contains domain = false

/-- No rule has a domain in its list. -/
def Unruled (rules : List Rule) (domain : String) : Prop :=
  ∀ rule ∈ rules, (DomainSet.ofList rule.domains).contains domain = false

/-- The first rule whose domains contain a domain. -/
def firstRule? (rules : List Rule) (domain : String) : Option Rule :=
  rules.find? fun rule => (DomainSet.ofList rule.domains).contains domain

/-- No rule before the one that decides has the domain in its list. -/
theorem RuledBy.le {rules : List Rule} {domain : String} {place other : Nat} {rule found : Rule}
    (ruled : RuledBy rules domain place rule) (present : rules[other]? = some found)
    (contained : (DomainSet.ofList found.domains).contains domain) : place ≤ other := by
  by_contra later
  have among : found ∈ rules.take place :=
    List.mem_of_getElem? ((List.getElem?_take_of_lt (Nat.lt_of_not_le later)).trans present)
  exact Bool.false_ne_true ((ruled.first found among).symm.trans contained)

/-- One rule decides. -/
theorem RuledBy.unique {rules : List Rule} {domain : String} {place other : Nat} {rule found : Rule}
    (ruled : RuledBy rules domain place rule) (also : RuledBy rules domain other found) :
    place = other ∧ rule = found := by
  have same : place = other :=
    Nat.le_antisymm (ruled.le also.present also.contained) (also.le ruled.present ruled.contained)
  subst same
  exact ⟨rfl, Option.some.inj (ruled.present.symm.trans also.present)⟩

/-- A policy that is enabled decides by the first rule that applies, and else allows the domain. -/
theorem decide_load (rules : List Rule) (domain : String) :
    (load true rules).decide domain = (firstRule? rules domain).elim .allow Rule.decision := by
  rw [decide, load, firstRule?, if_pos rfl]
  simp only [List.find?_map, Function.comp_def, DomainSet.contains]
  cases rules.find? fun rule => (DomainSet.ofList rule.domains).covers (normalize domain) <;> rfl

/-- The first rule that applies is the one that is found. -/
theorem firstRule?_of_ruledBy {rules : List Rule} {domain : String} {place : Nat} {rule : Rule}
    (ruled : RuledBy rules domain place rule) : firstRule? rules domain = some rule := by
  obtain ⟨bound, here⟩ := List.getElem?_eq_some_iff.mp ruled.present
  refine List.find?_eq_some_iff_append.mpr
    ⟨ruled.contained, rules.take place, rules.drop (place + 1), ?_, fun earlier member => ?_⟩
  · rw [← here, ← List.drop_eq_getElem_cons bound, List.take_append_drop]
  · rw [ruled.first earlier member]
    rfl

/-- Where no rule applies, none is found. -/
theorem firstRule?_of_unruled {rules : List Rule} {domain : String}
    (unruled : Unruled rules domain) :
    firstRule? rules domain = none :=
  List.find?_eq_none.mpr fun rule member => Bool.eq_false_iff.mp (unruled rule member)

/-- A rule decides, or none has the domain in its list. -/
theorem ruledBy_or_unruled (rules : List Rule) (domain : String) :
    (∃ place rule, RuledBy rules domain place rule) ∨ Unruled rules domain := by
  cases found : firstRule? rules domain with
  | none =>
    exact .inr fun rule member => Bool.eq_false_iff.mpr (List.find?_eq_none.mp found rule member)
  | some rule =>
    obtain ⟨contained, before, after, rfl, earlier⟩ := List.find?_eq_some_iff_append.mp found
    refine .inl ⟨before.length, rule, ?_, contained, ?_⟩
    · rw [List.getElem?_append_right (Nat.le_refl _), Nat.sub_self, List.getElem?_cons_zero]
    · rw [List.take_left]
      intro other member
      exact Bool.not_eq_true' _ |>.mp (earlier other member)

/-- The first rule that applies decides. -/
theorem decide_of_ruledBy {rules : List Rule} {domain : String} {place : Nat} {rule : Rule}
    (ruled : RuledBy rules domain place rule) :
    (load true rules).decide domain = rule.decision := by
  rw [decide_load, firstRule?_of_ruledBy ruled, Option.elim_some]

/-- Where no rule applies, the domain is allowed. -/
theorem decide_of_unruled {rules : List Rule} {domain : String} (unruled : Unruled rules domain)
    (enabled : Bool) :
    (load enabled rules).decide domain = .allow := by
  cases enabled with
  | false => rfl
  | true => rw [decide_load, firstRule?_of_unruled unruled, Option.elim_none]

section Congr

variable {domain other : String} (same : normalize domain = normalize other)

include same

/-- A policy does not tell domains with the same normal form apart. -/
theorem decide_congr (policy : Policy) : policy.decide domain = policy.decide other := by
  rw [decide, decide, same]

/-- The rule that applies to a domain applies to any with the same normal form. -/
theorem RuledBy.congr {rules : List Rule} {place : Nat} {rule : Rule}
    (ruled : RuledBy rules domain place rule) :
    RuledBy rules other place rule where
  present := ruled.present
  contained := DomainSet.contains_congr same _ ▸ ruled.contained
  first := fun earlier member => DomainSet.contains_congr same _ ▸ ruled.first earlier member

end Congr

/-- An enabled policy decides what the first rule says whose domains, as a set of their own, contain
the domain: its action, its name and its category, and if it redirects, the target as it is
configured. Where there is no such rule, or the policy is disabled, the domain is allowed, and
nothing else is said. -/
theorem decide_by_first_rule (enabled : Bool) (rules : List Rule) (domain : String)
    (decision : Decision) :
    (load enabled rules).decide domain = decision ↔
      (enabled = true ∧ ∃ place rule, RuledBy rules domain place rule ∧
        decision =
          { action := rule.action
            policyId := some rule.id
            category := rule.category
            redirectTarget := if rule.action = .redirect then rule.redirectTarget else none }) ∨
      ((enabled = false ∨ Unruled rules domain) ∧
        decision =
          { action := .allow, policyId := none, category := none, redirectTarget := none }) := by
  constructor
  · rintro rfl
    cases enabled with
    | false => exact .inr ⟨.inl rfl, rfl⟩
    | true =>
      obtain ⟨place, rule, ruled⟩ | unruled := ruledBy_or_unruled rules domain
      · exact .inl ⟨rfl, place, rule, ruled, decide_of_ruledBy ruled⟩
      · exact .inr ⟨.inr unruled, decide_of_unruled unruled true⟩
  · rintro (⟨rfl, place, rule, ruled, rfl⟩ | ⟨rfl | unruled, rfl⟩)
    · exact decide_of_ruledBy ruled
    · rfl
    · exact decide_of_unruled unruled enabled

end Policy

end Filter

end DnsForwarder
