import DnsForwarder.Engine

/-!
# What is asked for a query

A query is put to the blocklist, to the policy and to the resolvers, in this order and to each of
them once at most. Whether it is put to the next one and what is replied depends on what the ones
before say, whether they answer or fail (`DnsForwarder.Engine.process_gates`).
-/

namespace DnsForwarder.Engine

/-- A request is to a filter or to the resolvers, and not to the engine's own records. -/
def Request.isConsultation : Request → Bool
  | .isBlocked _ | .decide _ | .forward .. => true
  | .note _ | .sample _ | .report _ => false

/-- What is asked of the filters and the resolvers, in order. -/
def consultations (asked : List Request) : List Request := asked.filter Request.isConsultation

/-- A blocklist is there and says that it covers a domain. -/
def Filters.blocks (filters : Filters) (domain : String) : Bool :=
  match filters.isBlocked with
  | some check => (check domain).toOption.getD false
  | none => false

/-- Without a blocklist nothing is blocked. -/
theorem Filters.blocks_of_none {filters : Filters} (absent : filters.isBlocked = none)
    (domain : String) :
    filters.blocks domain = false := by
  rw [blocks, absent]

/-- A blocklist blocks what it says yes to; if it fails it blocks nothing. -/
theorem Filters.blocks_of_some {filters : Filters} {check : String → Except Error Bool}
    (present : filters.isBlocked = some check) (domain : String) :
    filters.blocks domain = (check domain).toOption.getD false := by
  rw [blocks, present]

/-- What is told of a domain is what the blocklist says of it. -/
theorem tell_isBlocked {σ : Type} {timing : Timing} {forwarder : Forwarder σ} {resolvers : σ}
    {engine : Engine} {check : String → Except Error Bool}
    (present : engine.filters.isBlocked = some check) (domain : String) :
    (tell timing forwarder (.isBlocked domain) (engine, resolvers)).1 = check domain := by
  rw [tell, present]

/-- The policy answers, and allows the query. -/
def allows : Except Error Filter.Decision → Bool
  | .ok decision => decision.action = .allow
  | .error _ => false

/-- The reply to a redirection: its target, if that is an IPv4 address, and else a report of
failure. -/
def redirection (request : Message) (decision : Filter.Decision) : Message :=
  match Net.IPv4.ofText? (Query.targetText decision).toList with
  | some target => request.redirect target
  | none => request.serverFailure

/-- The reply to a query that was forwarded: the resolvers' answer, if there is one, and else a
report of failure. -/
def relayed (request : Message) : Except Error Message → Message
  | .ok response => response
  | .error _ => request.serverFailure

/-- The reply to a query that the blocklist lets pass, by what the policy says and what the
resolvers answer. -/
def replyBy (request : Message) (answered : Except Error Message) :
    Except Error Filter.Decision → Option Message
  | .error _ => none
  | .ok decision =>
    match decision.action with
    | .deny => some request.refused
    | .redirect => some (redirection request decision)
    | .allow => some (relayed request answered)

/-- There is no reply to a query that the blocklist lets pass if the policy fails, and only then. -/
theorem replyBy_eq_none_iff {request : Message} {answered : Except Error Message}
    {decided : Except Error Filter.Decision} :
    replyBy request answered decided = none ↔ ∃ error, decided = .error error := by
  cases decided with
  | error error => exact iff_of_true rfl ⟨error, rfl⟩
  | ok decision =>
    refine iff_of_false ?_ (by rintro ⟨_, same⟩; exact nomatch same)
    rw [replyBy]
    cases decision.action <;> exact Option.some_ne_none _

/-- The consultations that a query leads to, and the reply to it. -/
def Consulted {σ : Type} (outcome : Dialogue.Outcome interface σ Ending) (asked : List Request)
    (reply : Option Message) : Prop :=
  consultations outcome.asked = asked ∧ outcome.value.reply = reply

section Query

variable {σ : Type} (answer : (r : Request) → σ → r.Answer × σ) (state : σ) (query : Query)

/-- A consultation comes before those of the rest. -/
theorem consulted_ask {request : Request} (consults : request.isConsultation = true)
    {next : request.Answer → Dialogue interface Ending} {asked : List Request}
    {reply : Option Message}
    (rest : Consulted ((next (answer request state).1).run (I := interface) answer
      (answer request state).2) asked reply) :
    Consulted ((Dialogue.ask (I := interface) request next).run (I := interface) answer state)
      (request :: asked) reply :=
  ⟨(List.filter_cons_of_pos consults).trans (congrArg _ rest.1), rest.2⟩

/-- What is asked of the engine's own records is not among the consultations. -/
theorem consulted_aside {request : Request} (aside : request.isConsultation = false)
    {next : request.Answer → Dialogue interface Ending} {asked : List Request}
    {reply : Option Message}
    (rest : Consulted ((next (answer request state).1).run (I := interface) answer
      (answer request state).2) asked reply) :
    Consulted ((Dialogue.ask (I := interface) request next).run (I := interface) answer state)
      asked reply :=
  ⟨(List.filter_cons_of_neg (Bool.eq_false_iff.mp aside)).trans rest.1, rest.2⟩

/-- A complaint consults nobody and gives the reply that it was given. -/
theorem consulted_complain (event : Event) (error : Error) (reply : Option Message) :
    Consulted ((complain event error reply).run (I := interface) answer state) [] reply :=
  consulted_aside answer state rfl (consulted_aside answer _ rfl ⟨rfl, rfl⟩)

/-- A refusal consults nobody. -/
theorem consulted_refuse (reason : String) :
    Consulted ((query.refuse reason).run (I := interface) answer state) []
      (some query.request.refused) :=
  consulted_aside answer state rfl ⟨rfl, rfl⟩

/-- A redirection consults nobody. -/
theorem consulted_redirect (decision : Filter.Decision) :
    Consulted ((query.redirect decision).run (I := interface) answer state) []
      (some (redirection query.request decision)) := by
  rw [Query.redirect, redirection]
  dsimp only
  cases Net.IPv4.ofText? (Query.targetText decision).toList with
  | some target => exact consulted_aside answer state rfl ⟨rfl, rfl⟩
  | none => exact consulted_complain answer state _ _ _

/-- A query that is forwarded is put to the resolvers once, and their answer makes the reply. -/
theorem consulted_forward (settings : Settings) :
    Consulted ((query.forward settings).run (I := interface) answer state)
      [.forward query.request settings.timeoutMs settings.maxRetries]
      (some (relayed query.request
        (answer (.forward query.request settings.timeoutMs settings.maxRetries) state).1)) := by
  refine consulted_ask answer state rfl ?_
  cases (answer (.forward query.request settings.timeoutMs settings.maxRetries) state).1 with
  | ok response => exact consulted_aside answer _ rfl ⟨rfl, rfl⟩
  | error error => exact consulted_complain answer _ _ _ _

end Query

section Process

variable {σ : Type} (timing : Timing) (forwarder : Forwarder σ) (resolvers : σ) (engine : Engine)

/-- What the policy says alone tells whether a query goes to the resolvers. Notes that the engine
has made meanwhile do not matter. -/
theorem consulted_consultPolicy (query : Query) {noted : Engine}
    (same : noted.filters = engine.filters) :
    let decided := engine.filters.decide query.domain
    let answered := (forwarder query.request engine.timeoutMs engine.maxRetries resolvers).1
    Consulted ((query.consultPolicy engine.settings).run (I := interface) (tell timing forwarder)
        (noted, resolvers))
      (.decide query.domain ::
        if allows decided then [.forward query.request engine.timeoutMs engine.maxRetries] else [])
      (replyBy query.request answered decided) := by
  intro decided answered
  refine consulted_ask (tell timing forwarder) (noted, resolvers) rfl ?_
  have told : (tell timing forwarder (.decide query.domain) (noted, resolvers)).1 = decided := by
    rw [tell, same]
  rw [told]
  cases decided with
  | error error => exact consulted_complain _ _ _ _ _
  | ok decision =>
    obtain ⟨action, policyId, category, target⟩ := decision
    cases action with
    | deny => exact consulted_refuse _ _ query _
    | redirect => exact consulted_redirect _ _ query _
    | allow => exact consulted_forward _ _ query engine.settings

/-- The blocklist, if there is one, is asked first, and only its saying yes keeps a query from the
policy. -/
theorem consulted_consultFilters (query : Query) :
    let decided := engine.filters.decide query.domain
    let answered := (forwarder query.request engine.timeoutMs engine.maxRetries resolvers).1
    Consulted ((query.consultFilters engine.settings).run (I := interface) (tell timing forwarder)
        (engine, resolvers))
      ((if engine.filters.isBlocked.isSome then [.isBlocked query.domain] else []) ++
        if engine.filters.blocks query.domain then []
        else .decide query.domain ::
          if allows decided then [.forward query.request engine.timeoutMs engine.maxRetries]
            else [])
      (if engine.filters.blocks query.domain then some query.request.refused
        else replyBy query.request answered decided) := by
  intro decided answered
  have policed {noted : Engine} (same : noted.filters = engine.filters) :=
    consulted_consultPolicy timing forwarder resolvers engine query same
  have present : engine.settings.hasBlocklist = engine.filters.isBlocked.isSome := rfl
  rw [Query.consultFilters, present]
  cases listed : engine.filters.isBlocked with
  | none =>
    rw [Filters.blocks_of_none listed]
    exact policed rfl
  | some check =>
    refine consulted_ask (tell timing forwarder) (engine, resolvers) rfl ?_
    rw [tell_isBlocked listed, Filters.blocks_of_some listed]
    cases check query.domain with
    | error error =>
      let noted : Engine := { engine with status := engine.status.note error }
      have noting : noted.filters = engine.filters := rfl
      exact consulted_aside _ _ rfl (consulted_aside _ _ rfl (policed noting))
    | ok covered =>
      cases covered with
      | true => exact consulted_refuse _ _ query "blocklist"
      | false => exact policed rfl

variable (request : Message) (client : Net.SocketAddress) (transport : Transport)

/-- A request without a question is put to nobody and has no reply. -/
theorem process_of_no_question (silent : request.questions.head? = none) :
    let outcome := engine.process timing forwarder resolvers request client transport
    consultations outcome.asked = [] ∧ outcome.value = none := by
  rw [process, answer, silent]
  exact ⟨rfl, rfl⟩

/-- A request with a question is put to the filters, and then a sample is taken. -/
theorem process_eq_of_question {question : Question}
    (first : request.questions.head? = some question) :
    let query : Query := { request, domain := toString question.name, client, transport }
    let ending :=
      (query.consultFilters engine.settings).run (I := interface) (tell timing forwarder)
      (engine, resolvers)
    engine.process timing forwarder resolvers request client transport =
      { value := ending.value.reply
        state := (tell timing forwarder (.sample ending.value.success) ending.state).2
        asked := ending.asked ++ [.sample ending.value.success] } := by
  intro query ending
  rw [process, answer, first]
  exact Dialogue.run_bind _ _ _ _

/-- A request with a question is consulted about and replied to by the name of the first. -/
theorem process_of_question {question : Question}
    (first : request.questions.head? = some question) :
    let outcome := engine.process timing forwarder resolvers request client transport
    let domain := toString question.name
    let decided := engine.filters.decide domain
    let answered := (forwarder request engine.timeoutMs engine.maxRetries resolvers).1
    consultations outcome.asked =
        (if engine.filters.isBlocked.isSome then [.isBlocked domain] else []) ++
          (if engine.filters.blocks domain then []
            else .decide domain ::
              if allows decided then [.forward request engine.timeoutMs engine.maxRetries]
                else []) ∧
      outcome.value =
        if engine.filters.blocks domain then some request.refused
        else replyBy request answered decided := by
  intro outcome domain decided answered
  let query : Query := { request, domain, client, transport }
  obtain ⟨asked, reply⟩ := consulted_consultFilters timing forwarder resolvers engine query
  have whole :=
    process_eq_of_question timing forwarder resolvers engine request client transport first
  rw [show outcome = _ from whole]
  refine ⟨?_, reply⟩
  rw [← asked]
  exact (List.filter_append _ _).trans (List.append_nil _)

end Process

/-- A request is put to the blocklist, if there is one, if it has a question; to the policy, if it
has one and the blocklist does not say yes, be it that there is none, that it says no or that it
fails; and to the resolvers, as it is and with the timeout and the number of attempts that are set,
if the policy then allows it. -/
theorem process_gates {σ : Type} (timing : Timing) (forwarder : Forwarder σ) (resolvers : σ)
    (engine : Engine) (request : Message) (client : Net.SocketAddress) (transport : Transport) :
    let outcome := engine.process timing forwarder resolvers request client transport
    let domain? := request.questions.head?.map fun question => toString question.name
    let passing? := domain?.filter fun domain => !engine.filters.blocks domain
    let decided? := passing?.map engine.filters.decide
    let answered := (forwarder request engine.timeoutMs engine.maxRetries resolvers).1
    consultations outcome.asked =
        (if engine.filters.isBlocked.isSome then domain?.toList.map .isBlocked else []) ++
          passing?.toList.map .decide ++
          (if decided?.any allows then [.forward request engine.timeoutMs engine.maxRetries]
            else []) ∧
      (outcome.value = none ↔ domain? = none ∨ ∃ error, decided? = some (.error error)) ∧
      (∀ domain, domain? = some domain → engine.filters.blocks domain →
        outcome.value = some request.refused) ∧
      ∀ decided, decided? = some decided → outcome.value = replyBy request answered decided := by
  intro outcome domain? passing? decided? answered
  cases first : request.questions.head? with
  | none =>
    obtain ⟨asked, value⟩ := process_of_no_question timing forwarder resolvers engine request client
      transport first
    have nowhere : domain? = none := congrArg (Option.map _) first
    have passing : passing? = none := congrArg (Option.filter _) nowhere
    have decided : decided? = none := congrArg (Option.map _) passing
    rw [asked, value, nowhere, passing, decided]
    refine ⟨?_, iff_of_true rfl (.inl rfl), nofun, nofun⟩
    split <;> rfl
  | some question =>
    obtain ⟨asked, value⟩ := process_of_question timing forwarder resolvers engine request client
      transport first
    have here : domain? = some (toString question.name) := congrArg (Option.map _) first
    have filtered : passing? = if !engine.filters.blocks (toString question.name) then
        some (toString question.name) else none :=
      (congrArg (Option.filter _) here).trans Option.filter_some
    cases blocked : engine.filters.blocks (toString question.name) with
    | true =>
      have passing : passing? = none := by
        rw [filtered, blocked]
        rfl
      have decided : decided? = none := congrArg (Option.map _) passing
      rw [blocked] at asked value
      rw [asked, value, here, passing, decided]
      refine ⟨?_, ?_, fun _ _ _ => rfl, nofun⟩
      · split <;> rfl
      · exact iff_of_false (Option.some_ne_none _) (by rintro (h | ⟨_, h⟩) <;> exact nomatch h)
    | false =>
      have passing : passing? = some (toString question.name) := by
        rw [filtered, blocked]
        rfl
      have decided : decided? = some (engine.filters.decide (toString question.name)) :=
        congrArg (Option.map _) passing
      rw [blocked] at asked value
      rw [asked, value, here, passing, decided]
      refine ⟨?_, ?_, ?_, ?_⟩
      · split <;> rfl
      · simp only [Bool.false_eq_true, if_false, replyBy_eq_none_iff, Option.some_ne_none, false_or,
          Option.some.injEq]
      · rintro _ same listed
        obtain rfl := Option.some.inj same
        exact absurd (blocked.symm.trans listed) Bool.false_ne_true
      · rintro _ ⟨⟩
        rfl

end DnsForwarder.Engine
