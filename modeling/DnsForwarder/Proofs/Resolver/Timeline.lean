import DnsForwarder.Proofs.Resolver.Health
import DnsForwarder.Proofs.Resolver.Recovery

/-!
# Queries and probes over time

Queries of clients and rounds of probes are put to a session one after the other. Every round does
to the resolvers what `DnsForwarder.Resolver.Probed` says. A resolver that is down is not asked for
any client, and stays down, until a probe of it succeeds (`DnsForwarder.Resolver.Session.recovers`).

For the latter the requests of all the tasks are laid out in one list. What is asked of a resolver
at each moment agrees with its health (`DnsForwarder.Resolver.Moment.Allowed`), and only an answer
or an exhausted round changes the health.
-/

namespace DnsForwarder.Resolver

variable {C σ α β : Type}

/-- What is put to the resolvers: a query of a client, or a round of probes. -/
inductive Task where
  | query (query : Message) (timeoutMs maxRetries : Nat)
  | probe (probes : Recovery.Probes) (timeoutMs : Nat)

/-- A request, with the session as it was before it. -/
structure Moment (C σ : Type) where
  /-- Whether a round of probes makes the request. -/
  probing : Bool
  session : Session C σ
  request : Request

namespace Moment

/-- The query of a client goes to a resolver. -/
def ServesClient (moment : Moment C σ) (place : Nat) : Prop :=
  moment.probing = false ∧ ∃ query timeoutMs, moment.request = .attempt place query timeoutMs

/-- A probe of a resolver succeeds. -/
def Revives (servers : Servers C σ) (moment : Moment C σ) (place : Nat) : Prop :=
  moment.probing = true ∧ ∃ query timeoutMs answer,
    moment.request = .attempt place query timeoutMs ∧
      (Session.tell servers (.attempt place query timeoutMs) moment.session).1 = .ok answer

/-- A resolver answers the request of a moment. -/
def isAnswered (servers : Servers C σ) (moment : Moment C σ) (place : Nat) : Bool :=
  match moment.request with
  | .attempt other query timeoutMs =>
    other = place && (Session.tell servers (.attempt other query timeoutMs) moment.session).1.isOk
  | _ => false

/-- A moment revives a resolver if it is of a probe and is answered. -/
theorem revives_iff {servers : Servers C σ} {moment : Moment C σ} {place : Nat} :
    moment.Revives servers place ↔ moment.probing = true ∧
    moment.isAnswered servers place = true := by
  refine and_congr_right fun _ => ?_
  unfold isAnswered
  constructor
  · rintro ⟨query, timeoutMs, answer, request, told⟩
    rw [request]
    exact Bool.and_eq_true_iff.mpr ⟨decide_eq_true rfl, congrArg Except.isOk told⟩
  · intro asked
    split at asked
    next other query timeoutMs request =>
      obtain ⟨same, answered⟩ := Bool.and_eq_true_iff.mp asked
      obtain rfl := of_decide_eq_true same
      cases told : (Session.tell servers (.attempt other query timeoutMs) moment.session).1 with
      | ok answer => exact ⟨query, timeoutMs, answer, request, told⟩
      | error error =>
        rw [told] at answered
        cases answered
    next => cases asked

instance (servers : Servers C σ) (moment : Moment C σ) (place : Nat) :
    Decidable (moment.Revives servers place) :=
  decidable_of_iff _ revives_iff.symm

/-- Clients have nothing to do with a resolver that is down, and probes exhaust no round. -/
def Allowed (moment : Moment C σ) : Prop :=
  match moment.request with
  | .attempt place _ _ => moment.probing = true ∨ moment.session.group.health place ≠ .down
  | .exhausted place => moment.probing = false ∧ moment.session.group.health place ≠ .down
  | _ => True

end Moment

/-- A group has the same resolvers when a member changes but for its description. -/
theorem Group.map_description_modify (group : Group C) (index : Nat) (f : Member C → Member C)
    (keeps : ∀ member, (f member).description = member.description) :
    (group.modify index f).members.map Member.description =
      group.members.map Member.description := by
  refine List.ext_getElem? fun place => ?_
  rw [List.getElem?_map, List.getElem?_map, modify, List.getElem?_modify]
  cases group.members[place]? with
  | none => rfl
  | some member =>
    by_cases same : index = place
    · simp only [if_pos same, Option.map_eq_map, Option.map_some, keeps]
    · simp only [if_neg same, Option.map_eq_map, Option.map_some]

/-- A group has the same resolvers after an entry. -/
theorem Group.map_description_enter (group : Group C) (index : Nat) (entry : Entry) :
    (group.enter index entry).members.map Member.description =
      group.members.map Member.description :=
  group.map_description_modify index _ fun _ => rfl

namespace Session

variable (servers : Servers C σ) (session : Session C σ)

/-- The resolvers of a group stay the same ones. -/
theorem map_description_tell (request : Request) :
    (tell servers request session).2.group.members.map Member.description =
      session.group.members.map Member.description := by
  cases request with
  | health index => rfl
  | report event => rfl
  | attempt index query timeoutMs =>
    obtain ⟨pool, group⟩ := session.group.attempt_eq_enter index query
      (servers index query timeoutMs session.servers).1
    change (tell servers (.attempt index query timeoutMs) session).2.group = _ at group
    rw [group, Group.map_description_enter]
    exact session.group.map_description_modify index _ fun _ => rfl
  | exhausted index =>
    change (session.group.exhaust index).1.members.map Member.description = _
    rw [Group.exhaust_eq_enter, Group.map_description_enter]

/-- A group has the same resolvers after any requests. -/
theorem map_description_serve (requests : List Request) :
    (session.serve servers requests).group.members.map Member.description =
      session.group.members.map Member.description := by
  induction requests generalizing session with
  | nil => rfl
  | cons request rest ih => exact (ih _).trans (map_description_tell servers session request)

/-- The health of a resolver stays as it is, except when the resolver answers or a round is
exhausted. -/
theorem health_tell (request : Request) (place : Nat) (calm : request ≠ .exhausted place)
    (vain : ∀ query timeoutMs answer, request = .attempt place query timeoutMs →
      (tell servers (.attempt place query timeoutMs) session).1 ≠ .ok answer) :
    (tell servers request session).2.group.health place = session.group.health place := by
  cases present : session.group.members[place]? with
  | none =>
    have absent : (tell servers request session).2.group.members[place]? = none := by
      have same := congrArg (·[place]?) (map_description_tell servers session request)
      simpa only [List.getElem?_map, present, Option.map_none, Option.map_eq_none_iff] using same
    rw [Group.health, absent, Group.health, present]
  | some member =>
    obtain ⟨-, changed, there, history⟩ := history_tell servers present request
    rw [Group.health_of_present there, Group.health_of_present present, history]
    cases request with
    | health index => rfl
    | report event => rfl
    | exhausted index =>
      have other : index ≠ place := fun same => calm (same ▸ rfl)
      simp only [entriesOf, entry?, if_neg other]
      rfl
    | attempt index query timeoutMs =>
      by_cases other : index = place
      · subst other
        have outcome := vain query timeoutMs
        change ∀ answer, _ → (session.group.attempt index query
          (servers index query timeoutMs session.servers).1).1 ≠ .ok answer at outcome
        simp only [entriesOf, entry?, if_pos]
        cases ended : (session.group.attempt index query
          (servers index query timeoutMs session.servers).1).1 with
        | error error => rfl
        | ok answer => exact absurd ended (outcome answer rfl)
      · simp only [entriesOf, entry?, if_neg other]
        rfl

/-- The requests of a dialogue, each with the session as it was before it. -/
def moments (probing : Bool) : Dialogue interface α → Session C σ → List (Moment C σ)
  | .done _, _ => []
  | .ask request next, session =>
    ⟨probing, session, request⟩ ::
      moments probing (next (tell servers request session).1) (tell servers request session).2

/-- Does a task. -/
def perform (session : Session C σ) : Task → Session C σ
  | .query query timeoutMs maxRetries => (session.exchange servers query timeoutMs maxRetries).state
  | .probe probes timeoutMs => (session.recover servers probes timeoutMs).state

/-- The session after some tasks. -/
def performAll (session : Session C σ) (tasks : List Task) : Session C σ :=
  tasks.foldl (perform servers) session

/-- The requests of a task. -/
def momentsOf (session : Session C σ) : Task → List (Moment C σ)
  | .query query timeoutMs maxRetries =>
    moments servers false
      (Failover.exchange session.group.places query timeoutMs maxRetries) session
  | .probe probes timeoutMs =>
    moments servers true (Recovery.round session.group.places probes timeoutMs) session

/-- The requests of tasks that are done one after the other. -/
def timeline : List Task → Session C σ → List (Moment C σ)
  | [], _ => []
  | task :: rest, session =>
    session.momentsOf servers task ++ timeline rest (session.perform servers task)

/-- The session after some requests. -/
def after (session : Session C σ) (moments : List (Moment C σ)) : Session C σ :=
  session.serve servers (moments.map Moment.request)

/-- Each request finds the session as the one before it left it. -/
def Linked (session : Session C σ) : List (Moment C σ) → Prop
  | [] => True
  | moment :: rest =>
    moment.session = session ∧ Linked (tell servers moment.request session).2 rest

/-- The session after two lists of requests is that after the second, from where the first leads
to. -/
theorem after_append (first second : List (Moment C σ)) :
    session.after servers (first ++ second) =
      (session.after servers first).after servers second := by
  rw [after, List.map_append, serve, List.foldl_append]
  rfl

/-- Two lists of moments are linked if each is and the second begins where the first leads to. -/
theorem linked_append (first second : List (Moment C σ)) :
    Linked servers session (first ++ second) ↔
      Linked servers session first ∧ Linked servers (session.after servers first) second := by
  induction first generalizing session with
  | nil => exact ⟨fun linked => ⟨trivial, linked⟩, And.right⟩
  | cons moment rest ih =>
    rw [List.cons_append, Linked, ih, Linked, and_assoc]
    rfl

section Moments

variable (probing : Bool)

/-- The moments of a dialogue make the requests that it asks. -/
theorem map_request_moments (dialogue : Dialogue interface α) :
    (moments servers probing dialogue session).map Moment.request =
      (dialogue.run (tell servers) session).asked := by
  induction dialogue generalizing session with
  | done value => rfl
  | ask request next ih => rw [moments, List.map_cons, ih]; rfl

/-- The moments of a dialogue lead to the session that it leaves. -/
theorem after_moments (dialogue : Dialogue interface α) :
    session.after servers (moments servers probing dialogue session) =
      (dialogue.run (tell servers) session).state := by
  rw [after, map_request_moments, state_run]

/-- The moments of a dialogue are linked. -/
theorem linked_moments (dialogue : Dialogue interface α) :
    Linked servers session (moments servers probing dialogue session) := by
  induction dialogue generalizing session with
  | done value => trivial
  | ask request next ih => exact ⟨rfl, ih _ _⟩

/-- The moments of the second dialogue follow those of the first. -/
theorem moments_bind (first : Dialogue interface α) (next : α → Dialogue interface β) :
    moments servers probing (first.bind next) session =
      moments servers probing first session ++
        moments servers probing (next (first.run (tell servers) session).value)
          (first.run (tell servers) session).state := by
  induction first generalizing session with
  | done value => rfl
  | ask request tell ih => exact congrArg (_ :: ·) (ih _ _)

end Moments

/-- The moments of a task lead to the session that it leaves. -/
theorem after_momentsOf (task : Task) :
    session.after servers (session.momentsOf servers task) = session.perform servers task := by
  cases task <;> exact after_moments servers session _ _

/-- By induction over the tasks, the moments of all are linked. -/
theorem linked_timeline (tasks : List Task) :
    Linked servers session (timeline servers tasks session) := by
  induction tasks generalizing session with
  | nil => trivial
  | cons task rest ih =>
    refine (linked_append servers session _ _).mpr ⟨?_, ?_⟩
    · cases task <;> exact linked_moments servers session _ _
    · rw [after_momentsOf]
      exact ih _

/-- The moments of all the tasks lead to the session after them. -/
theorem after_timeline (tasks : List Task) :
    session.after servers (timeline servers tasks session) = session.performAll servers tasks := by
  induction tasks generalizing session with
  | nil => rfl
  | cons task rest ih =>
    rw [timeline, after_append, after_momentsOf, ih]
    rfl

/-- Failed attempts on a resolver do not take it down, so that clients ask it in all its
attempts. -/
theorem allowed_ask (place : Failover.Place) (attempts : Nat) (query : Message)
    (timeoutMs left : Nat) (last : Option Error)
    (up : session.group.health place.1 ≠ .down) :
    let dialogue := Failover.ask place attempts query timeoutMs left last
    let outcome := dialogue.run (tell servers) session
    (∀ moment ∈ moments servers false dialogue session, moment.Allowed) ∧
      ∀ error, outcome.value = .error error → outcome.state.group.health place.1 ≠ .down := by
  -- The attempts that are left run down; one that fails leaves the resolver up for the next.
  induction left generalizing session last with
  | zero => exact ⟨List.forall_mem_nil _, fun _ _ => up⟩
  | succ left ih =>
    have first : Moment.Allowed ⟨false, session, .attempt place.1 query timeoutMs⟩ := .inr up
    rw [Failover.ask]
    simp only [moments, Dialogue.run]
    cases told : tell servers (.attempt place.1 query timeoutMs) session with
    | mk result state =>
      cases result with
      | ok answer =>
        refine ⟨List.forall_mem_singleton.mpr first, ?_⟩
        rintro _ ⟨⟩
      | error error =>
        have vain (answer : Message) :
            (tell servers (.attempt place.1 query timeoutMs) session).1 ≠ .ok answer := by
          rw [told]
          rintro ⟨⟩
        have kept := health_tell servers session (.attempt place.1 query timeoutMs) place.1
          (by rintro ⟨⟩) (by
            rintro _ _ answer ⟨⟩
            exact vain answer)
        rw [told] at kept
        let report : Request :=
          .report (Failover.failedAttempt place.2 (attempts - left) attempts error)
        obtain ⟨others, ended⟩ :=
          ih (tell servers report state).2 (some error) fun down => up (kept ▸ down)
        exact ⟨List.forall_mem_cons.mpr ⟨first, List.forall_mem_cons.mpr ⟨trivial, others⟩⟩, ended⟩

/-- No resolver that is down is asked for a client, as its health is asked for first. -/
theorem allowed_askEach (attempts : Nat) (query : Message) (timeoutMs : Nat)
    (places : List Failover.Place) (last : Option Error) :
    ∀ moment ∈ moments servers false
      (Failover.askEach attempts query timeoutMs places last) session,
      moment.Allowed := by
  induction places generalizing session last with
  | nil => exact List.forall_mem_nil _
  | cons place rest ih =>
    refine List.forall_mem_cons.mpr ⟨trivial, ?_⟩
    change ∀ moment ∈ moments servers false
      (if session.group.health place.1 = .down then _ else _) session, _
    by_cases down : session.group.health place.1 = .down
    · rw [if_pos down]
      exact ih session last
    · rw [if_neg down, moments_bind]
      obtain ⟨own, ended⟩ :=
        allowed_ask servers session place attempts query timeoutMs attempts last down
      refine List.forall_mem_append.mpr ⟨own, ?_⟩
      cases value : ((Failover.ask place attempts query timeoutMs attempts last).run (tell servers)
          session).value with
      | ok answer => exact List.forall_mem_nil _
      | error error => exact List.forall_mem_cons.mpr ⟨⟨rfl, ended error value⟩, ih _ error⟩

/-- A round of probes does what is allowed. -/
theorem allowed_probe (probes : Recovery.Probes) (timeoutMs : Nat) (places : List Failover.Place)
    (recovered : Nat) :
    ∀ moment ∈ moments servers true (Recovery.probe probes timeoutMs places recovered) session,
      moment.Allowed := by
  induction places generalizing session recovered with
  | nil => exact List.forall_mem_nil _
  | cons place rest ih =>
    refine List.forall_mem_cons.mpr ⟨trivial, ?_⟩
    change ∀ moment ∈ moments servers true
      (if session.group.health place.1 = .healthy then _ else _) session, _
    by_cases healthy : session.group.health place.1 = .healthy
    · rw [if_pos healthy]
      exact ih session recovered
    · rw [if_neg healthy]
      refine List.forall_mem_cons.mpr ⟨.inl rfl, ?_⟩
      cases tell servers (.attempt place.1 (probes.query place.1) timeoutMs) session with
      | mk result state =>
        cases result with
        | ok answer => exact List.forall_mem_cons.mpr ⟨trivial, ih _ _⟩
        | error error => exact ih state recovered

/-- What tasks ask of a resolver agrees with its health. -/
theorem allowed_timeline (tasks : List Task) :
    ∀ moment ∈ timeline servers tasks session, moment.Allowed := by
  induction tasks generalizing session with
  | nil => exact List.forall_mem_nil _
  | cons task rest ih =>
    refine List.forall_mem_append.mpr ⟨?_, ih _⟩
    cases task with
    | query query timeoutMs maxRetries =>
      exact allowed_askEach servers session _ query timeoutMs _ none
    | probe probes timeoutMs =>
      change ∀ moment ∈ moments servers true (.bind _ _) session, _
      rw [moments_bind]
      refine List.forall_mem_append.mpr ⟨allowed_probe servers session probes timeoutMs _ 0, ?_⟩
      split
      · exact List.forall_mem_singleton.mpr trivial
      · exact List.forall_mem_nil _

/-- A resolver that is down stays so, and clients do not get to it, as long as no probe of it
succeeds. -/
theorem stays_down {place : Nat} {moments : List (Moment C σ)}
    (linked : Linked servers session moments) (allowed : ∀ moment ∈ moments, moment.Allowed)
    (down : session.group.health place = .down)
    (vain : ∀ moment ∈ moments, ¬ moment.Revives servers place) :
    (∀ moment ∈ moments,
        moment.session.group.health place = .down ∧ ¬ moment.ServesClient place) ∧
      (session.after servers moments).group.health place = .down := by
  induction moments generalizing session with
  | nil => exact ⟨List.forall_mem_nil _, down⟩
  | cons moment rest ih =>
    obtain ⟨rfl, linked⟩ := linked
    rw [List.forall_mem_cons] at allowed vain
    have unserved : ¬ moment.ServesClient place := by
      rintro ⟨client, query, timeoutMs, request⟩
      have up := allowed.1
      rw [Moment.Allowed, request] at up
      rcases up with probing | up
      · exact Bool.false_ne_true (client.symm.trans probing)
      · exact up down
    have calm : moment.request ≠ .exhausted place := by
      intro request
      have up := allowed.1
      rw [Moment.Allowed, request] at up
      exact up.2 down
    -- Health changes by an answer or an exhausted round only; no client gets the one, no probe
    -- makes the other.
    have still : (tell servers moment.request moment.session).2.group.health place = .down := by
      rw [health_tell servers moment.session moment.request place calm, down]
      intro query timeoutMs answer request answered
      cases probing : moment.probing with
      | false => exact unserved ⟨probing, query, timeoutMs, request⟩
      | true => exact vain.1 ⟨probing, query, timeoutMs, answer, request, answered⟩
    obtain ⟨others, ended⟩ := ih _ linked allowed.2 still vain.2
    exact ⟨List.forall_mem_cons.mpr ⟨⟨down, unserved⟩, others⟩, ended⟩

/-- After any tasks a round of probes asks each resolver that is not healthy once, by rising
priority, and gives the number of those that it made healthy; those that fail have one failure more
and keep their health. A resolver that is down at some moment gets no query of a client, and stays
down, until a probe of it succeeds. -/
theorem recovers {host : Net.Host} {configured : List Description} {poolSize : Nat}
    {downAfter : UInt32} {connected : Group C}
    (ready : (Group.connect C host configured poolSize downAfter).1 = .ok connected)
    (same : session.group.members.map Member.description =
      connected.members.map Member.description)
    (tasks : List Task) :
    let before := session.performAll servers tasks
    (before.group.members.Pairwise fun x y => x.description.priority ≤ y.description.priority) ∧
      (∀ priority, (before.group.members.map Member.description).filter (·.priority = priority) =
        configured.filter (·.priority = priority)) ∧
      (∀ probes timeoutMs,
        let outcome := before.recover servers probes timeoutMs
        Probed probes timeoutMs (List.range before.group.members.length) before.group
          outcome.state.group (before.probeAttempts servers probes timeoutMs) outcome.value) ∧
      ∀ place earlier between later,
        timeline servers tasks session = earlier ++ between ++ later →
        (session.after servers earlier).group.health place = .down →
        (∀ moment ∈ between, ¬ moment.Revives servers place) →
        (∀ moment ∈ between,
            moment.session.group.health place = .down ∧ ¬ moment.ServesClient place) ∧
          (session.after servers (earlier ++ between)).group.health place = .down := by
  intro before
  have kept : before.group.members.map Member.description =
      connected.members.map Member.description := by
    rw [← same, ← map_description_serve servers session
      ((timeline servers tasks session).map Moment.request)]
    exact congrArg (List.map Member.description ·.group.members)
      (after_timeline servers session tasks).symm
  obtain ⟨sorted, level⟩ := Group.connect_order ready kept
  refine ⟨sorted, level, fun probes timeoutMs => probed_recover servers probes timeoutMs before, ?_⟩
  intro place earlier between later parts down vain
  have linked := linked_timeline servers session tasks
  have allowed := allowed_timeline servers session tasks
  rw [parts] at linked allowed
  have middle := ((linked_append servers session (earlier ++ between) later).mp linked).1
  rw [after_append]
  exact stays_down servers _ ((linked_append servers session earlier between).mp middle).2
    (fun moment made => allowed moment
      (List.mem_append_left later (List.mem_append_right earlier made))) down vain

/-- A resolver that is down gets no query of a client while a probe fails, and the next one brings
it back. -/
theorem recovers_after_failed_probe :
    let flaky : Description := { id := "flaky", address := "192.0.2.7" }
    let pool : Pool Unit := { server := .v4 ⟨192, 0, 2, 7⟩ 53, table := .empty Unit 1 }
    let servers : Servers Unit Nat := fun _ _ _ asked =>
      ({ events := if asked = 0 then [] else
          [.turn, .datagram [0, 7, 128, 0, 0, 0, 0, 0, 0, 0, 0, 0]] }, asked + 1)
    let session : Session Unit Nat :=
      { group :=
          { members := [⟨flaky, { health := .down, exhaustedRounds := 1 }, pool⟩], downAfter := 1 }
        servers := 0 }
    let probes : Recovery.Probes := Recovery.probeQuery 7
    let tasks : List Task := [.query { id := 5 } 900 2, .probe probes 900, .query { id := 6 } 900 2]
    let before := session.performAll servers tasks
    let outcome := before.recover servers probes 900
    (∃ connected, (Group.connect Unit .open_ [flaky] 1 1).1 = .ok connected ∧
        session.group.members.map Member.description =
          connected.members.map Member.description) ∧
      (∀ moment ∈ timeline servers tasks session,
        moment.session.group.health 0 = .down ∧ ¬ moment.ServesClient 0) ∧
      before.group.health 0 = .down ∧
      Probed probes 900 (List.range before.group.members.length) before.group outcome.state.group
        (before.probeAttempts servers probes 900)
        outcome.value ∧
      outcome.value = 1 := by
  intro flaky pool servers session probes tasks
  let connected : Group Unit := { members := [⟨flaky, {}, pool⟩], downAfter := 1 }
  have ready : (Group.connect Unit .open_ [flaky] 1 1).1 = .ok connected := by
    have sorted : Group.byPriority [flaky] = [flaky] := List.mergeSort_singleton flaky
    have joined : Member.connect Unit .open_ flaky 1 = .ok { description := flaky, pool } :=
      Member.connect_open (by decide +kernel) Nat.one_ne_zero
    rw [Group.connect, sorted]
    simp only [Group.connectEach, joined]
    rfl
  have same : session.group.members.map Member.description =
      connected.members.map Member.description := rfl
  obtain ⟨-, -, rounds, down⟩ := recovers servers session ready same tasks
  have unanswered : ∀ moment ∈ timeline servers tasks session, ¬ moment.Revives servers 0 := by
    decide +kernel
  have whole : timeline servers tasks session = [] ++ timeline servers tasks session ++ [] := by
    rw [List.nil_append, List.append_nil]
  obtain ⟨quiet, still⟩ := down 0 [] (timeline servers tasks session) [] whole rfl unanswered
  rw [List.nil_append, after_timeline] at still
  have back : ((session.performAll servers tasks).recover servers probes 900).value = 1 := by
    decide +kernel
  exact ⟨⟨connected, ready, same⟩, quiet, still, rounds probes 900, back⟩

end Session

end DnsForwarder.Resolver
