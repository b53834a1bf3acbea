import DnsForwarder.Engine
import DnsForwarder.Proofs.Filter.Ancestry

/-!
# What an engine forwards

With configured lists for filters, a request reaches the resolvers if the name of its first question
is neither on the blocklist nor refused or redirected by the policy, and only then
(`DnsForwarder.Engine.process_forwards_iff`). The names of other questions are not looked at: a
request with a listed name in second place is forwarded
(`DnsForwarder.Engine.process_forwards_second`).
-/

namespace DnsForwarder

namespace Engine

/-- A request asks for the resolvers' answer. -/
def Request.isForward : Request → Bool
  | .forward .. => true
  | _ => false

/-- What goes to the resolvers of what a dialogue asks for. -/
def forwarded {σ α : Type} (answer : (r : Request) → σ → r.Answer × σ)
    (dialogue : Dialogue interface α) (state : σ) : List Request :=
  (dialogue.run (I := interface) answer state).asked.filter Request.isForward

/-- The blocklist, if there is one, and the policy let a domain pass. -/
def passes (blocklist : Option Filter.Blocklist) (policy : Filter.Policy) (domain : String) :
    Bool :=
  !blocklist.any (·.contains domain) && (policy.decide domain).action = .allow

/-- A domain passes if no blocklist has it and the policy allows it. -/
theorem passes_iff (blocklist : Option Filter.Blocklist) (policy : Filter.Policy)
    (domain : String) :
    passes blocklist policy domain ↔
      (∀ set, blocklist = some set → set.contains domain = false) ∧
        (policy.decide domain).action = .allow := by
  rw [passes, Bool.and_eq_true, decide_eq_true_eq]
  refine and_congr ?_ Iff.rfl
  cases blocklist with
  | none => exact ⟨fun _ => nofun, fun _ => rfl⟩
  | some set => simp only [Option.any_some, Bool.not_eq_true', Option.some.injEq, forall_eq']

section Query

variable {σ : Type} (answer : (r : Request) → σ → r.Answer × σ) (state : σ) (query : Query)
  (settings : Settings)

/-- A dialogue that asks for something forwards that, if it is a request to the resolvers, and then
what its continuation forwards. -/
theorem forwarded_ask {α : Type} (request : Request)
    (next : request.Answer → Dialogue interface α) :
    forwarded answer (.ask request next) state =
      (if request.isForward then [request] else []) ++
        forwarded answer (next (answer request state).1) (answer request state).2 := by
  cases request <;> rfl

/-- What a dialogue and its continuation forward stands one after the other. -/
theorem forwarded_bind {α β : Type} (first : Dialogue interface α)
    (next : α → Dialogue interface β) :
    forwarded answer (first.bind next) state =
      forwarded answer first state ++
        forwarded answer (next (first.run answer state).value) (first.run answer state).state := by
  rw [forwarded, Dialogue.run_bind, List.filter_append, forwarded, forwarded]

/-- A refusal forwards nothing. -/
theorem forwarded_refuse (reason : String) :
    forwarded answer (query.refuse reason) state = [] := rfl

/-- A redirection forwards nothing, be it to an address or to nowhere. -/
theorem forwarded_redirect (decision : Filter.Decision) :
    forwarded answer (query.redirect decision) state = [] := by
  unfold Query.redirect
  dsimp only
  split
  · rfl
  · rfl

/-- Forwarding asks the resolvers once, with the limits that are set. -/
theorem forwarded_forward :
    forwarded answer (query.forward settings) state =
      [.forward query.request settings.timeoutMs settings.maxRetries] := by
  rw [Query.forward, forwarded_ask]
  cases (answer (.forward query.request settings.timeoutMs settings.maxRetries) state).1 with
  | ok response => rfl
  | error error => rfl

/-- The policy's decision alone tells whether a query is forwarded. -/
theorem forwarded_consultPolicy {decision : Filter.Decision} {after : σ}
    (decided : answer (.decide query.domain) state = (.ok decision, after)) :
    forwarded answer (query.consultPolicy settings) state =
      if decision.action = .allow then
        [.forward query.request settings.timeoutMs settings.maxRetries]
      else [] := by
  rw [Query.consultPolicy, forwarded_ask, decided]
  change forwarded answer _ after = _
  dsimp only
  cases decision.action with
  | allow => exact forwarded_forward answer after query settings
  | deny => exact forwarded_refuse answer after query decision.reason
  | redirect => exact forwarded_redirect answer after query decision

end Query

section Process

variable {σ : Type} (timing : Timing) (forwarder : Forwarder σ) (resolvers : σ) {engine : Engine}
  {blocklist : Option Filter.Blocklist} {policy : Filter.Policy}

/-- With configured lists, the lists alone tell whether a query is forwarded. -/
theorem forwarded_consultFilters (lists : engine.filters = .ofLists blocklist policy)
    (query : Query) :
    forwarded (tell timing forwarder) (query.consultFilters engine.settings) (engine, resolvers) =
      if passes blocklist policy query.domain then
        [.forward query.request engine.timeoutMs engine.maxRetries]
      else [] := by
  have decided : tell timing forwarder (.decide query.domain) (engine, resolvers) =
      (.ok (policy.decide query.domain), (engine, resolvers)) := by
    simp only [tell, lists]
    rfl
  have policed := forwarded_consultPolicy (tell timing forwarder) (engine, resolvers) query
    engine.settings decided
  cases blocklist with
  | none =>
    have unlisted : engine.settings.hasBlocklist = false := by
      rw [settings, lists]
      rfl
    rw [Query.consultFilters, unlisted, if_neg Bool.false_ne_true, policed]
    simp only [passes, Option.any_none, Bool.not_false, Bool.true_and, decide_eq_true_eq]
    rfl
  | some set =>
    have listed : engine.settings.hasBlocklist = true := by
      rw [settings, lists]
      rfl
    have told : tell timing forwarder (.isBlocked query.domain) (engine, resolvers) =
        (.ok (set.contains query.domain), (engine, resolvers)) := by
      simp only [tell, lists]
      rfl
    rw [Query.consultFilters, listed, if_pos rfl, forwarded_ask, told, passes, Option.any_some]
    cases set.contains query.domain with
    | true => rfl
    | false =>
      rw [Bool.not_false, Bool.true_and]
      simp only [decide_eq_true_eq]
      exact policed

/-- A request is forwarded once, as it is, if the name of its first question passes, and else not at
all. -/
theorem forwarded_answer (lists : engine.filters = .ofLists blocklist policy) (request : Message)
    (client : Net.SocketAddress) (transport : Transport) :
    forwarded (tell timing forwarder) (answer engine.settings request client transport)
        (engine, resolvers) =
      if request.questions.head?.any (passes blocklist policy <| toString ·.name) then
        [.forward request engine.timeoutMs engine.maxRetries]
      else [] := by
  rw [answer]
  cases request.questions.head? with
  | none => rfl
  | some question =>
    dsimp only
    rw [forwarded_bind, forwarded_ask, forwarded_consultFilters timing forwarder resolvers lists]
    exact List.append_nil _

/-- What the engine asks of the resolvers is the request itself, and it asks only if the name of the
first question passes the lists. -/
theorem mem_asked_process (lists : engine.filters = .ofLists blocklist policy) (request : Message)
    (client : Net.SocketAddress) (transport : Transport) (query : Message)
    (timeoutMs maxRetries : Nat) :
    .forward query timeoutMs maxRetries ∈
        (engine.process timing forwarder resolvers request client transport).asked ↔
      query = request ∧ timeoutMs = engine.timeoutMs ∧ maxRetries = engine.maxRetries ∧
        ∃ question, request.questions.head? = some question ∧
          passes blocklist policy (toString question.name) := by
  let asked := (engine.process timing forwarder resolvers request client transport).asked
  have sent : asked.filter Request.isForward = _ :=
    forwarded_answer timing forwarder resolvers lists request client transport
  have among : .forward query timeoutMs maxRetries ∈ asked ↔
      .forward query timeoutMs maxRetries ∈ asked.filter Request.isForward := by
    rw [List.mem_filter]
    exact (and_iff_left rfl).symm
  have first :=
    Option.any_eq_true (passes blocklist policy <| toString ·.name) request.questions.head?
  rw [among, sent]
  split
  next passing =>
    rw [List.mem_singleton, Request.forward.injEq]
    constructor
    · rintro ⟨same, time, tries⟩
      exact ⟨same, time, tries, first.mp passing⟩
    · rintro ⟨same, time, tries, -⟩
      exact ⟨same, time, tries⟩
  next stopped =>
    constructor
    · exact nofun
    · rintro ⟨-, -, -, passing⟩
      exact absurd (first.mpr passing) stopped

/-- With configured lists, a request is forwarded as it is, if the name of its first question is
neither on the blocklist nor refused or redirected by the policy, and only then. -/
theorem process_forwards_iff (engine : Engine) (blocklist : Option Filter.Blocklist)
    (policy : Filter.Policy) (request : Message) (client : Net.SocketAddress)
    (transport : Transport) (query : Message) (timeoutMs maxRetries : Nat) :
    let filtered := { engine with filters := .ofLists blocklist policy }
    .forward query timeoutMs maxRetries ∈
        (filtered.process timing forwarder resolvers request client transport).asked ↔
      query = request ∧ timeoutMs = engine.timeoutMs ∧ maxRetries = engine.maxRetries ∧
        ∃ question, request.questions.head? = some question ∧
          (∀ set, blocklist = some set → set.contains (toString question.name) = false) ∧
          (policy.decide (toString question.name)).action = .allow := by
  intro filtered
  have forwards := mem_asked_process timing forwarder resolvers
    (show filtered.filters = .ofLists blocklist policy from rfl) request client transport query
    timeoutMs maxRetries
  simp only [passes_iff] at forwards
  exact forwards

/-- A request whose second question has a listed name is forwarded. -/
theorem process_forwards_second :
    let first : Question := ⟨⟨[[111, 107]], by decide, by decide⟩, RecordType.a, classInternet⟩
    let second : Question := ⟨⟨[[97, 100]], by decide, by decide⟩, RecordType.a, classInternet⟩
    let request : Message := { id := 7, questions := [first, second] }
    let blocklist : Filter.Blocklist := .ofList ["ad"]
    let engine : Engine :=
      { filters := .ofLists (some blocklist) (.load true []), metrics := .start 300000 30000 0 }
    let forwarder : Forwarder Unit := fun _ _ _ state => (.error .noHealthyServers, state)
    .forward request 5000 2 ∈
        (engine.process ⟨0, 0⟩ forwarder () request (.v4 ⟨192, 0, 2, 7⟩ 40000) .udp).asked ∧
      ∃ question ∈ request.questions, blocklist.contains (toString question.name) := by
  intro first second request blocklist engine forwarder
  have clean : passes (some blocklist) (.load true []) (toString first.name) := by
    rw [passes, Option.any_some, Filter.DomainSet.contains_ofList]
    decide +kernel
  have listed : blocklist.contains (toString second.name) := by
    rw [Filter.DomainSet.contains_ofList]
    decide +kernel
  have lists : engine.filters = .ofLists (some blocklist) (.load true []) := rfl
  have forwards := mem_asked_process ⟨0, 0⟩ forwarder () lists request (.v4 ⟨192, 0, 2, 7⟩ 40000)
    .udp request 5000 2
  refine ⟨forwards.mpr ⟨rfl, rfl, rfl, first, rfl, clean⟩, second, ?_, listed⟩
  exact List.mem_cons_of_mem _ List.mem_cons_self

end Process

end Engine

end DnsForwarder
