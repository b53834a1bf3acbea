import DnsForwarder.Config
import Mathlib.Data.List.Forall2

/-!
# The conditions of a configuration

A configuration has to meet seven conditions. Nothing is wrong with it exactly if it meets all of
them, and otherwise the first problem is that of the first condition that it does not meet
(`DnsForwarder.Config.firstProblem?_eq_none_iff`, `DnsForwarder.Config.firstProblem?_eq_some_iff`).
-/

namespace DnsForwarder

namespace Config

/-- An address has something else than blanks. -/
def Addressed (description : Resolver.Description) : Prop :=
  ∃ c ∈ description.address.toList, Text.isBlank c = false

/-- A rule has a target if it redirects. -/
def Targeted (rule : Filter.Rule) : Prop := rule.action = .redirect → rule.redirectTarget ≠ none

/-- What a configuration has to meet, in the order in which it is looked at. -/
def conditions (config : Config) : List Prop :=
  [config.server.port ≠ 0,
    config.forwarding.resolvers ≠ [],
    ∀ resolver ∈ config.forwarding.resolvers, Addressed resolver,
    1 ≤ config.forwarding.poolSize,
    1 ≤ config.forwarding.maxRetries,
    1 ≤ config.metrics.sliceSecs ∧ config.metrics.sliceSecs ≤ config.metrics.windowSecs,
    ∀ rule ∈ config.policy.rules, Targeted rule]

/-- What is said of a configuration that does not meet a condition, by the place of the condition.
Of several resolvers or rules it is the first that is told. -/
inductive Complaint (config : Config) : (place : Nat) → Problem → Prop where
  | zeroPort (zero : config.server.port = 0) : Complaint config 0 .zeroPort
  | noResolvers (none : config.forwarding.resolvers = []) : Complaint config 1 .noResolvers
  | noAddress {before after : List Resolver.Description} {resolver : Resolver.Description}
    (split : config.forwarding.resolvers = before ++ resolver :: after)
    (blank : ¬ Addressed resolver)
    (first : ∀ earlier ∈ before, Addressed earlier) : Complaint config 2 (.noAddress resolver.id)
  | noPool (zero : config.forwarding.poolSize = 0) : Complaint config 3 .noPool
  | noAttempts (zero : config.forwarding.maxRetries = 0) : Complaint config 4 .noAttempts
  | sliceOutOfRange
    (outside : config.metrics.sliceSecs = 0 ∨
      config.metrics.windowSecs < config.metrics.sliceSecs) :
    Complaint config 5 (.sliceOutOfRange config.metrics.windowSecs)
  | noTarget {before after : List Filter.Rule} {rule : Filter.Rule}
    (split : config.policy.rules = before ++ rule :: after) (open_ : ¬ Targeted rule)
    (first : ∀ earlier ∈ before, Targeted earlier) : Complaint config 6 (.noTarget rule.id)

/-! ## The problems of each condition -/

/-- The problems with each of the conditions. -/
def complaints (config : Config) : List (List Problem) :=
  [problemIf (config.server.port == 0) .zeroPort,
    problemIf config.forwarding.resolvers.isEmpty .noResolvers,
    (config.forwarding.resolvers.filter fun r => Text.isAllBlank r.address).map (.noAddress ·.id),
    problemIf (config.forwarding.poolSize == 0) .noPool,
    problemIf (config.forwarding.maxRetries == 0) .noAttempts,
    problemIf (config.metrics.sliceSecs == 0 ||
      config.metrics.windowSecs < config.metrics.sliceSecs)
      (.sliceOutOfRange config.metrics.windowSecs),
    (config.policy.rules.filter fun rule => rule.action = .redirect &&
      rule.redirectTarget.isNone).map
      (.noTarget ·.id)]

/-- The problems of a configuration are its complaints, put one after the other. -/
theorem problems_eq_flatten (config : Config) : config.problems = config.complaints.flatten := by
  simp [problems, complaints]

/-- There is no problem where its condition does not hold. -/
theorem problemIf_eq_nil_iff {condition : Bool} {problem : Problem} :
    problemIf condition problem = [] ↔ condition = false := by
  cases condition <;> simp [problemIf]

/-- The first problem under a condition is the one that is told of it. -/
theorem head?_problemIf {condition : Bool} {problem told : Problem} :
    (problemIf condition problem).head? = some told ↔ condition = true ∧ problem = told := by
  cases condition <;> simp [problemIf]

/-- An address is one that has more than blanks. -/
theorem isAllBlank_eq_false_iff {resolver : Resolver.Description} :
    Text.isAllBlank resolver.address = false ↔ Addressed resolver := by
  simp [Text.isAllBlank, Addressed, List.all_eq_false]

/-- What is looked for in a rule is a redirection that has no target. -/
theorem targeted_iff {rule : Filter.Rule} :
    (decide (rule.action = .redirect) && rule.redirectTarget.isNone) = false ↔ Targeted rule := by
  by_cases redirects : rule.action = .redirect <;>
    simp [Targeted, redirects, Option.isSome_iff_ne_none]

/-- The first member that a test picks out of a list. -/
theorem head?_map_filter {α β : Type} {p : α → Bool} {f : α → β} {list : List α} {b : β} :
    ((list.filter p).map f).head? = some b ↔
      ∃ before x after, list = before ++ x :: after ∧ p x ∧
        (∀ earlier ∈ before, p earlier = false) ∧ f x = b := by
  rw [List.head?_map, Option.map_eq_some_iff, List.head?_filter]
  constructor
  · rintro ⟨x, found, rfl⟩
    obtain ⟨picked, before, after, rfl, earlier⟩ := List.find?_eq_some_iff_append.mp found
    exact ⟨before, x, after, rfl, picked, fun y member => by simpa using earlier y member, rfl⟩
  · rintro ⟨before, x, after, rfl, picked, earlier, rfl⟩
    refine ⟨x, List.find?_eq_some_iff_append.mpr
      ⟨picked, before, after, rfl, fun y member => ?_⟩, rfl⟩
    rw [earlier y member]
    rfl

/-- A condition is met if there is no problem with it. -/
theorem complaints_forall₂_conditions (config : Config) :
    List.Forall₂ (fun problems condition => problems = [] ↔ condition) config.complaints
      config.conditions := by
  have number {n : Nat} : (n == 0) = false ↔ 1 ≤ n := by
    rw [beq_eq_false_iff_ne, Nat.one_le_iff_ne_zero]
  refine .cons ?_ (.cons ?_ (.cons ?_ (.cons ?_ (.cons ?_ (.cons ?_ (.cons ?_ .nil))))))
  · rw [problemIf_eq_nil_iff, beq_eq_false_iff_ne]
  · rw [problemIf_eq_nil_iff, List.isEmpty_eq_false_iff]
  · simp only [List.map_eq_nil_iff, List.filter_eq_nil_iff, Bool.not_eq_true,
      isAllBlank_eq_false_iff]
  · rw [problemIf_eq_nil_iff, number]
  · rw [problemIf_eq_nil_iff, number]
  · rw [problemIf_eq_nil_iff, Bool.or_eq_false_iff, number, decide_eq_false_iff_not, Nat.not_lt]
  · simp only [List.map_eq_nil_iff, List.filter_eq_nil_iff, Bool.not_eq_true, targeted_iff]

/-- What is said of a condition is the first of the problems with it. -/
theorem complaint_iff {config : Config} {place : Nat} {problem : Problem} :
    Complaint config place problem ↔
      ∃ problems, config.complaints[place]? = some problems ∧ problems.head? = some problem := by
  constructor
  · rintro (zero | none | ⟨split, blank, first⟩ | zero | zero | outside | ⟨split, open_, first⟩)
    · exact ⟨_, rfl, head?_problemIf.mpr ⟨beq_iff_eq.mpr zero, rfl⟩⟩
    · exact ⟨_, rfl, head?_problemIf.mpr ⟨List.isEmpty_iff.mpr none, rfl⟩⟩
    · refine ⟨_, rfl, head?_map_filter.mpr ⟨_, _, _, split, ?_, fun earlier member => ?_, rfl⟩⟩
      · rwa [← isAllBlank_eq_false_iff, Bool.not_eq_false] at blank
      · exact isAllBlank_eq_false_iff.mpr (first earlier member)
    · exact ⟨_, rfl, head?_problemIf.mpr ⟨beq_iff_eq.mpr zero, rfl⟩⟩
    · exact ⟨_, rfl, head?_problemIf.mpr ⟨beq_iff_eq.mpr zero, rfl⟩⟩
    · refine ⟨_, rfl, head?_problemIf.mpr ⟨?_, rfl⟩⟩
      rwa [Bool.or_eq_true, beq_iff_eq, decide_eq_true_eq]
    · refine ⟨_, rfl, head?_map_filter.mpr ⟨_, _, _, split, ?_, fun earlier member => ?_, rfl⟩⟩
      · rwa [← targeted_iff, Bool.not_eq_false] at open_
      · exact targeted_iff.mpr (first earlier member)
  · rintro ⟨problems, present, head⟩
    -- There are as many problems as conditions, and each place has one kind of them.
    match place with
    | 0 =>
      cases present
      obtain ⟨zero, rfl⟩ := head?_problemIf.mp head
      exact .zeroPort (beq_iff_eq.mp zero)
    | 1 =>
      cases present
      obtain ⟨none, rfl⟩ := head?_problemIf.mp head
      exact .noResolvers (List.isEmpty_iff.mp none)
    | 2 =>
      cases present
      obtain ⟨before, resolver, after, split, blank, first, rfl⟩ := head?_map_filter.mp head
      refine .noAddress split ?_ fun earlier member =>
        isAllBlank_eq_false_iff.mp (first earlier member)
      rwa [← isAllBlank_eq_false_iff, Bool.not_eq_false]
    | 3 =>
      cases present
      obtain ⟨zero, rfl⟩ := head?_problemIf.mp head
      exact .noPool (beq_iff_eq.mp zero)
    | 4 =>
      cases present
      obtain ⟨zero, rfl⟩ := head?_problemIf.mp head
      exact .noAttempts (beq_iff_eq.mp zero)
    | 5 =>
      cases present
      obtain ⟨outside, rfl⟩ := head?_problemIf.mp head
      rw [Bool.or_eq_true, beq_iff_eq, decide_eq_true_eq] at outside
      exact .sliceOutOfRange outside
    | 6 =>
      cases present
      obtain ⟨before, rule, after, split, open_, first, rfl⟩ := head?_map_filter.mp head
      refine .noTarget split ?_ fun earlier member => targeted_iff.mp (first earlier member)
      rwa [← targeted_iff, Bool.not_eq_false]
    | _ + 7 => exact nomatch present

/-! ## The first problem -/

/-- The first member of lists one after the other is that of the first that is not empty. -/
theorem head?_flatten_eq_some_iff {α : Type} {lists : List (List α)} {a : α} :
    lists.flatten.head? = some a ↔
      ∃ place, (∃ list, lists[place]? = some list ∧ list.head? = some a) ∧
        ∀ earlier ∈ lists.take place, earlier = [] := by
  induction lists with
  | nil => simp
  | cons list rest ih =>
    rw [List.flatten_cons]
    cases list with
    | nil =>
      rw [List.nil_append, ih]
      constructor
      · rintro ⟨place, found, empty⟩
        exact ⟨place + 1, found, List.forall_mem_cons.mpr ⟨rfl, empty⟩⟩
      · rintro ⟨place, ⟨list, present, head⟩, empty⟩
        cases place with
        | zero =>
          cases present
          exact nomatch head
        | succ place => exact ⟨place, ⟨list, present, head⟩, (List.forall_mem_cons.mp empty).2⟩
    | cons first others =>
      constructor
      · intro head
        exact ⟨0, ⟨first :: others, rfl, head⟩, nofun⟩
      · rintro ⟨place, ⟨list, present, head⟩, empty⟩
        cases place with
        | zero =>
          cases present
          exact head
        | succ place => exact nomatch (List.forall_mem_cons.mp empty).1

/-- Complaints that are empty one by one under their conditions are all empty if all the conditions
hold. -/
theorem forall_iff_of_forall₂ {lists : List (List Problem)} {conditions : List Prop}
    (each : List.Forall₂ (fun problems condition => problems = [] ↔ condition) lists conditions) :
    (∀ problems ∈ lists, problems = []) ↔ ∀ condition ∈ conditions, condition := by
  induction each with
  | nil => exact iff_of_true nofun nofun
  | cons first _ ih => rw [List.forall_mem_cons, List.forall_mem_cons, first, ih]

/-- Nothing is wrong with a configuration that meets the conditions, and only with one. -/
theorem firstProblem?_eq_none_iff {config : Config} :
    config.firstProblem? = none ↔ ∀ condition ∈ config.conditions, condition := by
  rw [firstProblem?, List.head?_eq_none_iff, problems_eq_flatten, List.flatten_eq_nil_iff]
  exact forall_iff_of_forall₂ (complaints_forall₂_conditions config)

/-- The first problem is what is said of the first condition that is not met. -/
theorem firstProblem?_eq_some_iff {config : Config} {problem : Problem} :
    config.firstProblem? = some problem ↔
      ∃ place, Complaint config place problem ∧ ∀ condition ∈ config.conditions.take place,
        condition := by
  rw [firstProblem?, problems_eq_flatten, head?_flatten_eq_some_iff]
  refine exists_congr fun place => and_congr complaint_iff.symm ?_
  exact forall_iff_of_forall₂ (List.forall₂_take place (complaints_forall₂_conditions config))

end Config

end DnsForwarder
