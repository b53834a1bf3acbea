import DnsForwarder.Proofs.Engine.Gating
import DnsForwarder.Proofs.Message.RoundTrip
import DnsForwarder.Proofs.Resolver.Exchange
import DnsForwarder.Server.Service
import DnsForwarder.Services

/-!
# Answers on their way to the client

What a client is sent for a query that the engine allows is not what a resolver sent: it is read and
written again. It spells the same message all the same, but for the letter case of the targets of
`SRV` records (`DnsForwarder.Server.answer_relays`).
-/

namespace DnsForwarder

variable {C σ : Type}

namespace Resolver

section

variable {answer : (request : Request) → σ → request.Answer × σ} {query : Message} {timeoutMs : Nat}
  (property : Message → Prop)

/-- The value of a dialogue that begins with a request is that of the rest, given the answer. -/
theorem value_run_ask {α : Type} (request : Request) (next : request.Answer → Dialogue interface α)
    (state : σ) :
    ((Dialogue.ask (I := interface) request next).run (I := interface) answer state).value =
      ((next (answer request state).1).run (I := interface) answer
        (answer request state).2).value := rfl

/-- What is true of every answer to an attempt is true of the answer that failover finds on one
resolver. -/
theorem ask_answers
    (answering : ∀ index state message,
      (answer (.attempt index query timeoutMs) state).1 = .ok message → property message)
    (place : Failover.Place) (attempts left : Nat) {last : Option Error} {state : σ}
    {message : Message}
    (ended : ((Failover.ask place attempts query timeoutMs left last).run (I := interface) answer
      state).value = .ok message) : property message := by
  induction left generalizing last state with
  | zero => exact nomatch ended
  | succ left ih =>
    rw [Failover.ask, value_run_ask] at ended
    cases told : (answer (.attempt place.1 query timeoutMs) state).1 with
    | ok answered =>
      rw [told] at ended
      obtain rfl := Except.ok.inj ended
      exact answering _ _ _ told
    | error error =>
      rw [told] at ended
      exact ih ended

/-- What is true of every answer to an attempt is true of the answer that failover finds. -/
theorem askEach_answers
    (answering : ∀ index state message,
      (answer (.attempt index query timeoutMs) state).1 = .ok message → property message)
    (attempts : Nat) (places : List Failover.Place) {last : Option Error} {state : σ}
    {message : Message}
    (ended : ((Failover.askEach attempts query timeoutMs places last).run (I := interface) answer
      state).value = .ok message) : property message := by
  induction places generalizing last state with
  | nil => exact nomatch ended
  | cons place rest ih =>
    rw [Failover.askEach, value_run_ask] at ended
    split at ended
    · exact ih ended
    · rw [Dialogue.run_bind] at ended
      dsimp only at ended
      cases found :
        ((Failover.ask place attempts query timeoutMs attempts last).run (I := interface)
          answer (answer (.health place.1) state).2).value with
      | ok answered =>
        rw [found] at ended
        obtain rfl := Except.ok.inj ended
        exact ask_answers property answering place attempts attempts found
      | error error =>
        rw [found] at ended
        exact ih ended

end

/-- The resolvers' answer is the answer of a pool. -/
theorem Session.exists_pool_answer {servers : Servers C σ} {session : Session C σ}
    {query response : Message} {timeoutMs maxRetries : Nat}
    (answered : (session.exchange servers query timeoutMs maxRetries).value = .ok response) :
    ∃ (pool : Pool C) (events : List (ExchangeEvent C)),
      (pool.complete query events).1 = .ok response := by
  refine askEach_answers (fun message => ∃ (pool : Pool C) (events : List (ExchangeEvent C)),
    (pool.complete query events).1 = .ok message) (fun index state message told => ?_) _ _ answered
  have attempted :
      (state.group.attempt index query (servers index query timeoutMs state.servers).1).1 =
      .ok message := told
  rw [Group.attempt] at attempted
  cases present : state.group.members[index]? with
  | none =>
    rw [present] at attempted
    exact nomatch attempted
  | some member =>
    rw [present] at attempted
    exact ⟨member.pool, _, attempted⟩

end Resolver

namespace Server

/-- A request that the blocklist does not cover and the policy allows is answered with what the
resolvers answer. -/
theorem process_of_allowed {engine : Engine} {forwarder : Engine.Forwarder σ} {resolvers : σ}
    {request response : Message} {question : Question} (timing : Engine.Timing)
    (client : Net.SocketAddress) (transport : Transport)
    (first : request.questions.head? = some question)
    (unlisted : engine.filters.blocks (toString question.name) = false)
    (allowed : Engine.allows (engine.filters.decide (toString question.name)) = true)
    (answered : (forwarder request engine.timeoutMs engine.maxRetries resolvers).1 = .ok response) :
    (engine.process timing forwarder resolvers request client transport).value = some response := by
  obtain ⟨-, value⟩ :=
    Engine.process_of_question timing forwarder resolvers engine request client transport first
  rw [unlisted, answered] at value
  rw [value]
  cases decided : engine.filters.decide (toString question.name) with
  | error error =>
    rw [decided] at allowed
    exact nomatch allowed
  | ok decision =>
    rw [decided] at allowed
    have action : decision.action = .allow := of_decide_eq_true allowed
    simp [Engine.replyBy, action, Engine.relayed]

/-- The octets that go to a client whose request is allowed spell the resolvers' answer, with the
targets of `SRV` records in small letters, and that answer was read from octets that came in during
an exchange with a pool. This is so for TCP, and for UDP as far as the client takes so many
octets. -/
theorem answer_relays {servers : Resolver.Servers C σ} {session : Resolver.Session C σ}
    {engine : Engine} {arrival : Arrival} {request response : Message} {question : Question}
    {bytes : Bytes}
    (accepting : engine.status.accepting = true)
    (arrived : Message.decode arrival.read = .ok request)
    (first : request.questions.head? = some question)
    (unlisted : engine.filters.blocks (toString question.name) = false)
    (allowed : Engine.allows (engine.filters.decide (toString question.name)) = true)
    (answered : (session.exchange servers request engine.timeoutMs engine.maxRetries).value =
      .ok response)
    (plain : ∀ record ∈ response.answers ++ response.authority, record.data.type ≠ RecordType.opt)
    (written : response.encode? = some bytes)
    (fits : arrival.transport = .udp → bytes.length ≤ request.maxPayload.toNat) :
    (answer (Services.forwarder servers) arrival (engine, session)).value = some bytes ∧
      Message.decode bytes = .ok response.lowerTargets ∧
      ∃ (pool : Resolver.Pool C) (events : List (Resolver.ExchangeEvent C)) (received : Bytes),
        (pool.complete request events).1 = .ok response ∧ pool.Receives request events received ∧
        Message.decode received = .ok response := by
  have replied :
      (engine.process arrival.timing (Services.forwarder servers) session request arrival.client
        arrival.transport).value = some response :=
    process_of_allowed arrival.timing arrival.client arrival.transport first unlisted
      allowed answered
  obtain ⟨pool, events, accepted⟩ := Resolver.Session.exists_pool_answer answered
  obtain ⟨-, received, receives, read⟩ := Resolver.Pool.exists_receives_of_complete accepted
  refine ⟨?_, Message.decode_of_encode? (Message.regular_of_decode read) plain written,
    pool, events, received, accepted, receives, read⟩
  rw [answer, if_pos accepting, arrived]
  dsimp only
  rw [replied]
  change encodeReply? arrival.transport request response = some bytes
  rw [encodeReply?.eq_def]
  cases transport : arrival.transport with
  | tcp => exact written
  | udp =>
    dsimp only
    rw [Message.encodeForDatagram?, written]
    exact if_pos (fits transport)

/-- A service record comes back with its target in small letters, and everything else as the
resolver sent it. -/
theorem answer_relays_service :
    let query : Name := ⟨[[0x41]], by decide, by decide⟩
    let request : Message := { id := 7, questions := [⟨query, RecordType.srv, classInternet⟩] }
    let response : Message :=
      { request with
        response := true
        responseCode := ⟨16, by decide⟩
        answers := [⟨query, classInternet, 300, .srv 0 5 53 query⟩]
        edns := some ⟨1232, 0, 0, []⟩ }
    let sent : Bytes :=
      [0, 7, 0x80, 0, 0, 1, 0, 1, 0, 0, 0, 1, 1, 0x41, 0, 0, 33, 0, 1, 0xC0, 12, 0, 33,
      0, 1, 0, 0, 1, 44, 0, 8, 0, 0, 0, 5, 0, 53, 0xC0, 12, 0, 0, 41, 4, 208, 1, 0, 0, 0, 0, 0]
    let servers : Resolver.Servers Unit Unit := fun _ _ _ state =>
      ({ events := [.turn, .datagram sent] }, state)
    let session : Resolver.Session Unit Unit :=
      { group :=
          { members := [⟨{ id := "near", address := "192.0.2.2" }, {},
              { server := .v4 ⟨192, 0, 2, 2⟩ 53, table := .empty Unit 1 }⟩]
            downAfter := 3 }
        servers := () }
    let engine : Engine :=
      { filters := { isBlocked := none, decide := fun _ => .ok .allow }
        status := { accepting := true }
        metrics := .start 1000 1000 0 }
    let arrival : Arrival :=
      { transport := .udp, client := .v4 .loopback 40000, bytes := request.octets,
        timing := ⟨0, 0⟩ }
    response.lowerTargets ≠ response ∧
      (answer (Services.forwarder servers) arrival (engine, session)).value = some response.octets ∧
      Message.decode response.octets = .ok response.lowerTargets ∧
      ∃ (pool : Resolver.Pool Unit) (events : List (Resolver.ExchangeEvent Unit))
        (received : Bytes),
        (pool.complete request events).1 = .ok response ∧ pool.Receives request events received ∧
        Message.decode received = .ok response := by
  intro query request response sent servers session engine arrival
  have answered : (session.exchange servers request engine.timeoutMs engine.maxRetries).value =
      .ok response := by
    decide +kernel
  have arrived : Message.decode arrival.read = .ok request := by decide +kernel
  have written : response.encode? = some response.octets := by decide +kernel
  have plain : ∀ record ∈ response.answers ++ response.authority,
      record.data.type ≠ RecordType.opt := by
    decide +kernel
  have fits : response.octets.length ≤ request.maxPayload.toNat := by decide +kernel
  exact ⟨by decide +kernel, answer_relays rfl arrived rfl rfl rfl answered plain written
    fun _ => fits⟩

end Server

end DnsForwarder
