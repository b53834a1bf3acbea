import DnsForwarder.Proofs.Resolver.Failover

/-!
# Rounds of probes

A round of probes asks each resolver that is not healthy once, in the order of the group, and gives
the number of those that it made healthy (`DnsForwarder.Resolver.Session.probed_recover`). A probe
that fails is one more failure of its resolver; how many rounds it is away from being down stays as
it was.
-/

namespace DnsForwarder.Resolver

variable {C σ : Type}

/-- What a probe does to the resolver that it asks. -/
structure Checked (query : Message) (result : Except Error Message) (before after : Member C) :
    Prop where
  description : after.description = before.description
  /-- The probe is one exchange on the pool. -/
  pool : ∃ events, before.pool.complete query events = (result, after.pool)
  failed : ∀ error, result = .error error → after.history =
    { before.history with
      failures := before.history.failures + 1
      lastError := some error }
  answered : ∀ answer, result = .ok answer → ∃ latency finished, after.history =
    { health := .healthy
      averageLatency := History.mixLatency before.history.averageLatency latency
      lastSuccess := finished
      lastError := none
      successes := before.history.successes + 1
      failures := before.history.failures
      exhaustedRounds := 0 }

/-- A resolver that is not healthy is so after a probe if it answered. -/
theorem Checked.healthy_iff {query : Message} {result : Except Error Message}
    {before after : Member C} (checked : Checked query result before after)
    (unhealthy : before.history.health ≠ .healthy) :
    after.history.health = .healthy ↔ result.isOk := by
  cases result with
  | error error =>
    rw [checked.failed error rfl]
    exact iff_of_false unhealthy Bool.false_ne_true
  | ok answer =>
    obtain ⟨latency, finished, history⟩ := checked.answered answer rfl
    rw [history]
    exact iff_of_true rfl rfl

/-- The resolver that an attempt is made on, with what it is asked. -/
def Attempt.asked (attempt : Attempt) : Nat × Message × Nat :=
  (attempt.place, attempt.query, attempt.timeoutMs)

/-- What has happened to a group after a round of probes went through some places. -/
structure Probed (probes : Recovery.Probes) (timeoutMs : Nat) (places : List Nat)
    (before after : Group C) (attempts : List Attempt) (recovered : Nat) : Prop where
  size : after.members.length = before.members.length
  /-- Each resolver that is not healthy is asked once, in the order of the places, and no other
  one. -/
  asked : attempts.map Attempt.asked =
    (places.filter (before.health · ≠ .healthy)).map fun place =>
      (place, probes.query place, timeoutMs)
  /-- The others stay as they are. -/
  spared : ∀ place, (place ∈ places → before.health place = .healthy) →
    after.members[place]? = before.members[place]?
  /-- What becomes of one that is asked follows from its own answer and from how it was before. -/
  checked : ∀ attempt ∈ attempts, ∀ member, before.members[attempt.place]? = some member →
    ∃ changed, after.members[attempt.place]? = some changed ∧
      Checked attempt.query attempt.result member changed
  recovered : recovered = places.countP fun place =>
    before.health place ≠ .healthy ∧ after.health place = .healthy

namespace Probed

variable {probes : Recovery.Probes} {timeoutMs : Nat} {before after : Group C}
  {member changed : Member C} {index : Nat} {rest : List Nat} {attempts : List Attempt}
  {recovered : Nat}

/-- No resolver is left to be probed. -/
theorem none : Probed probes timeoutMs [] before before [] 0 where
  size := rfl
  asked := rfl
  spared _ _ := rfl
  checked := List.forall_mem_nil _
  recovered := rfl

/-- A resolver that is healthy, and then the others. -/
theorem skip (healthy : before.health index = .healthy)
    (others : Probed probes timeoutMs rest before after attempts recovered) :
    Probed probes timeoutMs (index :: rest) before after attempts recovered where
  size := others.size
  asked := by
    rw [List.filter_cons_of_neg (by simp [healthy])]
    exact others.asked
  spared place quiet :=
    others.spared place fun visited => quiet (List.mem_cons_of_mem index visited)
  checked := others.checked
  recovered := by
    rw [List.countP_cons_of_neg (by simp [healthy])]
    exact others.recovered

/-- A resolver that is asked, and then the others. -/
theorem prepend (present : before.members[index]? = some member)
    (unhealthy : member.history.health ≠ .healthy) (beyond : index ∉ rest)
    {result : Except Error Message} (checked : Checked (probes.query index) result member changed)
    (others : Probed probes timeoutMs rest (before.put index changed) after attempts recovered) :
    Probed probes timeoutMs (index :: rest) before after
      (⟨index, probes.query index, timeoutMs, result⟩ :: attempts)
      (recovered + if result.isOk then 1 else 0) := by
  have here : before.health index ≠ .healthy := by
    rw [Group.health_of_present present]
    exact unhealthy
  have health (place : Nat) (visited : place ∈ rest) :
      (before.put index changed).health place = before.health place := by
    have apart : index ≠ place := fun same => beyond (same ▸ visited)
    rw [Group.health, before.getElem?_put_ne apart changed, Group.health]
  have there : after.members[index]? = some changed :=
    (others.spared index fun visited => absurd visited beyond).trans
      (before.getElem?_put present changed)
  constructor
  case size => exact others.size.trans List.length_set
  case asked =>
    rw [List.filter_cons_of_pos (by simp [here]), List.map_cons, List.map_cons, others.asked]
    have same : rest.filter ((before.put index changed).health · ≠ .healthy) =
        rest.filter (before.health · ≠ .healthy) :=
      List.filter_congr fun place visited => by rw [health place visited]
    rw [same]
    rfl
  case spared =>
    intro place quiet
    have apart : index ≠ place := by
      rintro rfl
      exact here (quiet List.mem_cons_self)
    rw [← before.getElem?_put_ne apart changed]
    refine others.spared place fun visited => ?_
    rw [health place visited]
    exact quiet (List.mem_cons_of_mem index visited)
  case checked =>
    refine List.forall_mem_cons.mpr ⟨fun old found => ?_, fun attempt made old found => ?_⟩
    · cases Option.some.inj (present.symm.trans found)
      exact ⟨changed, there, checked⟩
    · have visited : attempt.asked ∈ attempts.map Attempt.asked := List.mem_map_of_mem made
      rw [others.asked] at visited
      obtain ⟨place, inside, same⟩ := List.mem_map.mp visited
      -- A later probe asks another resolver, which this one has not changed.
      have further : place ∈ rest := (List.mem_filter.mp inside).1
      have apart : index ≠ attempt.place := by
        rw [← show place = attempt.place from congrArg Prod.fst same]
        exact fun first => beyond (first ▸ further)
      refine others.checked attempt made old ?_
      rw [before.getElem?_put_ne apart changed]
      exact found
  case recovered =>
    have own : (before.health index ≠ .healthy ∧ after.health index = .healthy) ↔ result.isOk := by
      rw [Group.health_of_present there]
      exact (and_iff_right here).trans (checked.healthy_iff unhealthy)
    have same : rest.countP (fun place => (before.put index changed).health place ≠ .healthy ∧
          after.health place = .healthy) =
        rest.countP fun place => before.health place ≠ .healthy ∧ after.health place = .healthy :=
      List.countP_congr fun place visited => by rw [health place visited]
    rw [List.countP_cons, ← same, ← others.recovered]
    simp only [own, decide_eq_true_eq]

end Probed

namespace Session

variable (servers : Servers C σ) (probes : Recovery.Probes) (timeoutMs : Nat)

/-- What a round of probes does to the resolvers at some places, one after the other. -/
theorem probed_probe (places : List Failover.Place) (ordered : (places.map Prod.fst).Nodup)
    (session : Session C σ) (inside : ∀ place ∈ places, place.1 < session.group.members.length)
    (start : Nat) :
    let played := play servers (Recovery.probe probes timeoutMs places start) session
    ∃ recovered, played.value = start + recovered ∧
      Probed probes timeoutMs (places.map Prod.fst) session.group played.session.group
        played.attempts recovered := by
  -- Each probe leaves a session and a number to the places behind it, so both are general.
  induction places generalizing session start with
  | nil => exact ⟨0, rfl, .none⟩
  | cons place rest ih =>
    rw [List.map_cons, List.nodup_cons] at ordered
    obtain ⟨beyond, ordered⟩ := ordered
    have here : place.1 < session.group.members.length := inside place List.mem_cons_self
    obtain ⟨member, present⟩ : ∃ member, session.group.members[place.1]? = some member :=
      ⟨_, List.getElem?_eq_getElem here⟩
    rw [Recovery.probe, play_ask, tell_health servers present]
    dsimp only
    by_cases healthy : member.history.health = .healthy
    · rw [if_pos healthy]
      obtain ⟨recovered, count, others⟩ :=
        ih ordered session
          (fun other further => inside other (List.mem_cons_of_mem place further)) start
      exact ⟨recovered, count, .skip ((Group.health_of_present present).trans healthy) others⟩
    rw [if_neg healthy, play_ask]
    obtain ⟨result, pool, state, told, exchange, outcome⟩ :=
      tell_attempt servers present (probes.query place.1) timeoutMs
    rw [told]
    have left (changed : Member C) (group : state.group = session.group.put place.1 changed) :
        ∀ other ∈ rest, other.1 < state.group.members.length := by
      intro other further
      rw [group, Group.put, List.length_set]
      exact inside other (List.mem_cons_of_mem place further)
    rcases outcome with ⟨error, -, rfl, group⟩ | ⟨answer, latency, finished, rfl, group⟩
    · let changed : Member C := { member with history := member.history.fail error, pool }
      have checked : Checked (probes.query place.1) (.error error) member changed := by
        refine ⟨rfl, exchange, ?_, by rintro _ ⟨⟩⟩
        rintro _ ⟨⟩
        rfl
      obtain ⟨recovered, count, others⟩ := ih ordered state (left changed group) start
      rw [group] at others
      exact ⟨recovered, count, .prepend present healthy beyond checked others⟩
    · -- The report that follows an answer leaves the group as it is.
      let report : Request := .report (.info "Recovery probe succeeded" [("resolver", place.2)])
      have silent : (tell servers report state).2.group = state.group := rfl
      let changed : Member C :=
        { member with history := member.history.succeed latency finished, pool }
      have checked : Checked (probes.query place.1) (.ok answer) member changed := by
        refine ⟨rfl, exchange, by rintro _ ⟨⟩, ?_⟩
        rintro _ ⟨⟩
        exact ⟨latency, finished, rfl⟩
      obtain ⟨recovered, count, others⟩ :=
        ih ordered (tell servers report state).2 (left changed group) (start + 1)
      rw [silent, group] at others
      refine ⟨recovered + 1, count.trans ?_, .prepend present healthy beyond checked others⟩
      omega

/-- The report at the end of a round adds nothing but to the log. -/
theorem play_round (places : List Failover.Place) (session : Session C σ) :
    let probed := play servers (Recovery.probe probes timeoutMs places 0) session
    let round := play servers (Recovery.round places probes timeoutMs) session
    round.value = probed.value ∧ round.session.group = probed.session.group ∧
      round.attempts = probed.attempts := by
  intro probed round
  have parts : round =
      let finish := play servers (if 0 < probed.value then
          .ask (.report (.info "Resolver recovery cycle completed" [("recovered", probed.value)]))
            fun _ => .done probed.value
        else .done probed.value) probed.session
      { finish with attempts := probed.attempts ++ finish.attempts } :=
        play_bind servers _ _ session
  rw [parts]
  by_cases any : 0 < probed.value
  · rw [if_pos any]
    exact ⟨rfl, rfl, List.append_nil _⟩
  · rw [if_neg any]
    exact ⟨rfl, rfl, List.append_nil _⟩

/-- The exchanges that a round of probes asks for, in order. -/
def probeAttempts (session : Session C σ) : List Attempt :=
  (play servers (Recovery.round session.group.places probes timeoutMs) session).attempts

/-- A round of probes visits the whole group. -/
theorem probed_recover (session : Session C σ) :
    let outcome := session.recover servers probes timeoutMs
    Probed probes timeoutMs (List.range session.group.members.length) session.group
      outcome.state.group (session.probeAttempts servers probes timeoutMs) outcome.value := by
  intro outcome
  have places := map_fst_places session.group
  obtain ⟨recovered, count, probed⟩ :=
    probed_probe servers probes timeoutMs session.group.places (places ▸ List.nodup_range)
      session (fun _ => lt_length_of_mem_places) 0
  obtain ⟨value, group, attempts⟩ :=
    play_round servers probes timeoutMs session.group.places session
  have total : outcome.value = recovered := value.trans (count.trans (Nat.zero_add _))
  rw [places, ← group, ← attempts, ← total] at probed
  exact probed

end Session

end DnsForwarder.Resolver
