import DnsForwarder.Proofs.Resolver.Attempts
import DnsForwarder.Proofs.Resolver.Group

/-!
# Failover

A query visits the resolvers of a group in their order, passes over those that are down, and asks
each other one until it answers or its attempts are used up; it ends with the first answer
(`DnsForwarder.Resolver.Session.exchange_fails_over`). What has happened to a group after the visits
to some of its places is `DnsForwarder.Resolver.FailsOver`, which is built up from the last place to
the first.
-/

namespace DnsForwarder.Resolver

variable {C σ : Type}

/-- How a resolver that a query reaches comes out of it, and the outcomes of the attempts on it. -/
inductive Fares (limit : Nat) (downAfter : UInt32) (before after : Member C) :
    List (Except Error Message) → Prop where
  /-- A resolver that is down is passed over and stays as it is. -/
  | skipped (down : before.history.health = .down) (same : after = before) :
    Fares limit downAfter before after []
  /-- A resolver that fails each time has that many failures more, and one exhausted round. -/
  | exhausted (up : before.history.health ≠ .down) (errors : List Error)
    (count : errors.length = limit) (description : after.description = before.description)
    (history : after.history =
      { before.history with
        failures := before.history.failures + UInt64.ofNat limit
        lastError := errors.getLast?.or before.history.lastError
        exhaustedRounds := before.history.exhaustedRounds + 1
        health := History.healthAfter (before.history.exhaustedRounds + 1) downAfter }) :
    Fares limit downAfter before after (errors.map .error)
  /-- A resolver that answers has the failures before its answer more, and one success. -/
  | answered (up : before.history.health ≠ .down) (errors : List Error) (answer : Message)
    (count : errors.length < limit) (description : after.description = before.description)
    (latency : Nat) (finished : Int)
    (history : after.history =
      { health := .healthy
        averageLatency := History.mixLatency before.history.averageLatency latency
        lastSuccess := finished
        lastError := none
        successes := before.history.successes + 1
        failures := before.history.failures + UInt64.ofNat errors.length
        exhaustedRounds := 0 }) :
    Fares limit downAfter before after (errors.map .error ++ [.ok answer])

/-- The outcomes of the attempts on the resolver at a place. -/
def resultsAt (attempts : List Attempt) (place : Nat) : List (Except Error Message) :=
  (attempts.filter (·.place = place)).map Attempt.result

/-- A resolver before a place answered. -/
def AnsweredBefore (attempts : List Attempt) (place : Nat) : Prop :=
  ∃ attempt ∈ attempts, attempt.place < place ∧ attempt.result.isOk

/-- What has happened to a group after failover went through some places. `last` is the latest error
before that. -/
structure FailsOver (limit : Nat) (query : Message) (timeoutMs : Nat) (places : List Nat)
    (last : Option Error) (before after : Group C) (attempts : List Attempt)
    (value : Except Error Message) : Prop where
  /-- The places are visited in their order. -/
  ascending : attempts.Pairwise fun x y => x.place ≤ y.place
  inside : ∀ attempt ∈ attempts, attempt.place ∈ places
  /-- Each attempt is made with the query as it is. -/
  asked : ∀ attempt ∈ attempts, attempt.query = query ∧ attempt.timeoutMs = timeoutMs
  size : after.members.length = before.members.length
  outside : ∀ place ∉ places, after.members[place]? = before.members[place]?
  /-- A resolver after one that answered stays as it is, and is not asked. -/
  spared : ∀ place ∈ places, AnsweredBefore attempts place →
    after.members[place]? = before.members[place]? ∧ resultsAt attempts place = []
  /-- What becomes of each other one follows from how it was before. -/
  reached : ∀ place ∈ places, ¬ AnsweredBefore attempts place →
    ∀ member, before.members[place]? = some member →
      ∃ changed, after.members[place]? = some changed ∧
        Fares limit before.downAfter member changed (resultsAt attempts place)
  /-- Only the last attempt can have an answer. -/
  stops : ∀ attempt ∈ attempts.dropLast, ¬ attempt.result.isOk
  /-- The result is that of the last attempt. -/
  value : value = (attempts.getLast?.map Attempt.result).getD (.error (last.getD .noHealthyServers))
  plain : ∀ attempt ∈ attempts, attempt.result ≠ .error .noHealthyServers

/-- In a list of attempts an answer is in the first or in the second part. -/
theorem answeredBefore_append (first second : List Attempt) (place : Nat) :
    AnsweredBefore (first ++ second) place ↔
      AnsweredBefore first place ∨ AnsweredBefore second place := by
  simp only [AnsweredBefore, List.mem_append, or_and_right, exists_or]

/-- The results of a place are those of the first part, then those of the second. -/
theorem resultsAt_append (first second : List Attempt) (place : Nat) :
    resultsAt (first ++ second) place = resultsAt first place ++ resultsAt second place := by
  rw [resultsAt, List.filter_append, List.map_append, resultsAt, resultsAt]

/-- A place where nothing was attempted has no results. -/
theorem resultsAt_eq_nil {attempts : List Attempt} {place : Nat}
    (elsewhere : ∀ attempt ∈ attempts, attempt.place ≠ place) : resultsAt attempts place = [] := by
  have none : attempts.filter (·.place = place) = [] :=
    List.filter_eq_nil_iff.mpr fun attempt member => by
      simpa only [decide_eq_true_eq] using elsewhere attempt member
  rw [resultsAt, none, List.map_nil]

/-- If all attempts were made at a place, their results are its results. -/
theorem resultsAt_eq_map {attempts : List Attempt} {place : Nat}
    (here : ∀ attempt ∈ attempts, attempt.place = place) :
    resultsAt attempts place = attempts.map Attempt.result := by
  have all : attempts.filter (·.place = place) = attempts :=
    List.filter_eq_self.mpr fun attempt made => decide_eq_true (here attempt made)
  rw [resultsAt, all]

/-- Failures are no answers. -/
theorem answeredBefore_failed_append (index : Nat) (query : Message) (timeoutMs : Nat)
    (errors : List Error) (attempts : List Attempt) (place : Nat) :
    AnsweredBefore (errors.map (Attempt.failed index query timeoutMs) ++ attempts) place ↔
      AnsweredBefore attempts place := by
  refine (answeredBefore_append _ attempts place).trans (or_iff_right ?_)
  rintro ⟨attempt, made, -, ok⟩
  obtain ⟨error, -, rfl⟩ := List.mem_map.mp made
  exact Bool.false_ne_true ok

/-- Failures at one place are no results of another. -/
theorem resultsAt_failed_append {index place : Nat} (apart : index ≠ place) (query : Message)
    (timeoutMs : Nat) (errors : List Error) (attempts : List Attempt) :
    resultsAt (errors.map (Attempt.failed index query timeoutMs) ++ attempts) place =
      resultsAt attempts place := by
  have nothing : resultsAt (errors.map (Attempt.failed index query timeoutMs)) place = [] :=
    resultsAt_eq_nil (List.forall_mem_map.mpr fun error _ => apart)
  rw [resultsAt_append, nothing, List.nil_append]

/-- Failures at a place are its results. -/
theorem resultsAt_failed (index : Nat) (query : Message) (timeoutMs : Nat) (errors : List Error) :
    resultsAt (errors.map (Attempt.failed index query timeoutMs)) index = errors.map .error := by
  have here : ∀ attempt ∈ errors.map (Attempt.failed index query timeoutMs),
      attempt.place = index :=
    List.forall_mem_map.mpr fun error _ => rfl
  rw [resultsAt_eq_map here, List.map_map]
  rfl

namespace FailsOver

variable {limit : Nat} {query : Message} {timeoutMs : Nat} {last : Option Error}
  {before after : Group C} {member changed : Member C} {index : Nat} {rest : List Nat}
  {attempts : List Attempt} {value : Except Error Message}

/-- No resolver is left. The last error is the outcome, or that no server is healthy. -/
theorem none : FailsOver limit query timeoutMs [] last before before []
    (.error (last.getD .noHealthyServers)) where
  ascending := .nil
  inside := List.forall_mem_nil _
  asked := List.forall_mem_nil _
  size := rfl
  outside _ _ := rfl
  spared := List.forall_mem_nil _
  reached := List.forall_mem_nil _
  stops := List.forall_mem_nil _
  value := rfl
  plain := List.forall_mem_nil _

/-- A resolver that does not answer, and then the others. -/
theorem prepend (errors : List Error) (present : before.members[index]? = some member)
    (later : ∀ place ∈ rest, index < place)
    (fares : Fares limit before.downAfter member changed (errors.map .error))
    (plain : ∀ error ∈ errors, error ≠ .noHealthyServers)
    (others : FailsOver limit query timeoutMs rest (errors.getLast?.or last)
      (before.put index changed) after attempts value) :
    FailsOver limit query timeoutMs (index :: rest) last before after
      (errors.map (Attempt.failed index query timeoutMs) ++ attempts) value := by
  let tried := errors.map (Attempt.failed index query timeoutMs)
  have of_tried {property : Attempt → Prop}
      (each : ∀ error ∈ errors, property (.failed index query timeoutMs error)) :
      ∀ attempt ∈ tried, property attempt :=
    List.forall_mem_map.mpr each
  have failed : ∀ attempt ∈ tried, ¬ attempt.result.isOk :=
    of_tried fun error _ => Bool.false_ne_true
  have elsewhere : ∀ attempt ∈ attempts, index < attempt.place := fun attempt made =>
    later _ (others.inside attempt made)
  have beyond : index ∉ rest := fun visited => Nat.lt_irrefl _ (later index visited)
  -- So far nothing is answered, and the places that are left have no results.
  have answered := answeredBefore_failed_append index query timeoutMs errors attempts
  have results (place : Nat) (further : place ∈ rest) :=
    resultsAt_failed_append (Nat.ne_of_lt (later place further)) query timeoutMs errors attempts
  constructor
  case ascending =>
    refine List.pairwise_append.mpr ⟨?_, others.ascending, ?_⟩
    · exact List.pairwise_of_forall_mem_list
        (of_tried fun error _ => of_tried fun other _ => Nat.le_refl index)
    · exact of_tried fun error _ attempt made => Nat.le_of_lt (elsewhere attempt made)
  case inside =>
    refine List.forall_mem_append.mpr ⟨of_tried fun error _ => List.mem_cons_self, ?_⟩
    exact fun attempt made => List.mem_cons_of_mem index (others.inside attempt made)
  case asked => exact List.forall_mem_append.mpr ⟨of_tried fun error _ => ⟨rfl, rfl⟩, others.asked⟩
  case size => exact others.size.trans List.length_set
  case outside =>
    intro place outside
    rw [List.mem_cons, not_or] at outside
    rw [others.outside place outside.2, before.getElem?_put_ne (Ne.symm outside.1)]
  case spared =>
    intro place visited ended
    rw [answered] at ended
    rcases List.mem_cons.mp visited with rfl | further
    · obtain ⟨attempt, made, earlier, -⟩ := ended
      exact absurd earlier (Nat.lt_asymm (elsewhere attempt made))
    · obtain ⟨same, nothing⟩ := others.spared place further ended
      rw [same, results place further, before.getElem?_put_ne (Nat.ne_of_lt (later place further))]
      exact ⟨rfl, nothing⟩
  case reached =>
    intro place visited going old there
    rw [answered] at going
    rcases List.mem_cons.mp visited with rfl | further
    · cases Option.some.inj (present.symm.trans there)
      have nothing : resultsAt attempts place = [] :=
        resultsAt_eq_nil fun attempt made => (Nat.ne_of_lt (elsewhere attempt made)).symm
      refine ⟨changed, ?_, ?_⟩
      · rw [others.outside place beyond, before.getElem?_put present]
      · rw [resultsAt_append, resultsAt_failed, nothing, List.append_nil]
        exact fares
    · have kept : (before.put index changed).members[place]? = some old := by
        rw [before.getElem?_put_ne (Nat.ne_of_lt (later place further)), there]
      rw [results place further]
      exact others.reached place further going old kept
  case stops =>
    by_cases nothing : attempts = []
    · rw [nothing, List.append_nil]
      exact fun attempt made => failed attempt ((List.dropLast_sublist tried).mem made)
    · rw [List.dropLast_append_of_ne_nil nothing]
      exact List.forall_mem_append.mpr ⟨failed, others.stops⟩
  case value =>
    rw [others.value, List.getLast?_append, List.getLast?_map]
    cases attempts.getLast? with
    | some attempt => rfl
    | none => cases errors.getLast? <;> rfl
  case plain =>
    refine List.forall_mem_append.mpr ⟨of_tried fun error made same => ?_, others.plain⟩
    exact plain error made (Except.error.inj same)

/-- A resolver that answers ends the query. -/
theorem stop (errors : List Error) (answer : Message)
    (present : before.members[index]? = some member) (later : ∀ place ∈ rest, index < place)
    (fares : Fares limit before.downAfter member changed (errors.map .error ++ [.ok answer]))
    (plain : ∀ error ∈ errors, error ≠ .noHealthyServers) :
    FailsOver limit query timeoutMs (index :: rest) last before (before.put index changed)
      (errors.map (Attempt.failed index query timeoutMs) ++ [⟨index, query, timeoutMs, .ok answer⟩])
      (.ok answer) := by
  let tried := errors.map (Attempt.failed index query timeoutMs)
  let success : Attempt := ⟨index, query, timeoutMs, .ok answer⟩
  have of_made {property : Attempt → Prop} (own : property success)
      (each : ∀ error ∈ errors, property (.failed index query timeoutMs error)) :
      ∀ attempt ∈ tried ++ [success], property attempt :=
    List.forall_mem_append.mpr
      ⟨List.forall_mem_map.mpr each, List.forall_mem_singleton.mpr own⟩
  have here : ∀ attempt ∈ tried ++ [success], attempt.place = index :=
    of_made rfl fun error _ => rfl
  have results : resultsAt (tried ++ [success]) index = errors.map .error ++ [.ok answer] := by
    rw [resultsAt_eq_map here, List.map_append, List.map_map]
    rfl
  constructor
  case ascending =>
    refine List.pairwise_of_forall_mem_list fun x first y second => Nat.le_of_eq ?_
    exact (here x first).trans (here y second).symm
  case inside =>
    intro attempt made
    rw [here attempt made]
    exact List.mem_cons_self
  case asked => exact of_made ⟨rfl, rfl⟩ fun error _ => ⟨rfl, rfl⟩
  case size => exact List.length_set
  case outside =>
    intro place outside
    rw [List.mem_cons, not_or] at outside
    exact before.getElem?_put_ne (Ne.symm outside.1) changed
  case spared =>
    rintro place - ⟨attempt, made, earlier, -⟩
    rw [here attempt made] at earlier
    have nothing : resultsAt (tried ++ [success]) place = [] :=
      resultsAt_eq_nil fun attempt made => (here attempt made).trans_ne (Nat.ne_of_lt earlier)
    exact ⟨before.getElem?_put_ne (Nat.ne_of_lt earlier) changed, nothing⟩
  case reached =>
    intro place visited going old there
    rcases List.mem_cons.mp visited with rfl | further
    · cases Option.some.inj (present.symm.trans there)
      refine ⟨changed, before.getElem?_put present changed, ?_⟩
      rw [results]
      exact fares
    · -- The answer comes before any of the others.
      have answered : AnsweredBefore (tried ++ [success]) place :=
        ⟨success, List.mem_append_right tried List.mem_cons_self, later place further, rfl⟩
      exact absurd answered going
  case stops =>
    rw [List.dropLast_concat]
    exact List.forall_mem_map.mpr fun error _ => Bool.false_ne_true
  case value =>
    rw [List.getLast?_concat]
    rfl
  case plain =>
    refine of_made nofun fun error made same => ?_
    exact plain error made (Except.error.inj same)

end FailsOver

namespace Session

variable (servers : Servers C σ) {session : Session C σ} {member : Member C}
  (place : Failover.Place) (limit : Nat) (query : Message) (timeoutMs : Nat)
  (rest : List Failover.Place) (last : Option Error)

/-- The exchanges that a query asks for, in order. -/
def attempts (servers : Servers C σ) (query : Message) (timeoutMs maxRetries : Nat)
    (session : Session C σ) : List Attempt :=
  (play servers (Failover.exchange session.group.places query timeoutMs maxRetries)
    session).attempts

/-- The places of a group are those of its members, in order. -/
theorem map_fst_places (group : Group C) :
    group.places.map Prod.fst = List.range group.members.length := by
  refine List.ext_getElem (by simp only [Group.places, List.length_map, List.length_mapIdx,
    List.length_range]) fun place _ _ => ?_
  simp only [Group.places, List.getElem_map, List.getElem_mapIdx, List.getElem_range]

/-- A place of a group has a member. -/
theorem lt_length_of_mem_places {group : Group C} {place : Failover.Place}
    (visited : place ∈ group.places) : place.1 < group.members.length := by
  have listed : place.1 ∈ group.places.map Prod.fst := List.mem_map_of_mem visited
  rw [map_fst_places] at listed
  exact List.mem_range.mp listed

end Session

end DnsForwarder.Resolver
