import DnsForwarder.Proofs.Message.Truncation
import DnsForwarder.Proofs.Server.Relay

/-!
# Replies and the identifiers of their requests

A client knows its reply by the identifier of its request, which both begin with. A reply that is
made on the spot repeats the identifier, an answer of a resolver has it because the pool lets no
other through, and cutting and writing keep it. So whatever clients and resolvers send, every reply
of a run begins as the message did that it is a reply to (`DnsForwarder.Server.run_echoes_ids`).
-/

namespace DnsForwarder

variable {C σ : Type}

namespace Message

/-- The octets of a message begin with its identifier. -/
theorem take_two_octets (message : Message) :
    message.octets.take 2 = Bytes.ofUInt16 message.id := by
  rw [octets_eq]
  rfl

/-- A message begins with its identifier. -/
theorem take_two_of_decode {bytes : Bytes} {message : Message} (read : decode bytes = .ok message) :
    bytes.take 2 = Bytes.ofUInt16 message.id := by
  match bytes with
  | [] => exact nomatch read
  | [octet] => exact nomatch read
  | high :: low :: rest =>
    have carried :
        Resolver.Channel.carries (Bytes.toUInt16 high low) (high :: low :: rest) = true :=
      beq_self_eq_true _
    rw [id_of_decode read carried, Bytes.ofUInt16_toUInt16]
    rfl

end Message

namespace Engine

/-- What resolvers answer has the identifier of the query. -/
def Forwarder.Echoes (forwarder : Forwarder σ) : Prop :=
  ∀ query timeoutMs maxRetries state response,
    (forwarder query timeoutMs maxRetries state).1 = .ok response → response.id = query.id

/-- A reply has the identifier of its request, if what resolvers answer has it. -/
theorem id_of_process {forwarder : Forwarder σ} (echoes : forwarder.Echoes) {engine : Engine}
    {timing : Timing} {resolvers : σ} {request reply : Message} {client : Net.SocketAddress}
    {transport : Transport}
    (replied : (engine.process timing forwarder resolvers request client transport).value =
      some reply) :
    reply.id = request.id := by
  cases first : request.questions.head? with
  | none =>
    have silent :=
      process_of_no_question timing forwarder resolvers engine request client transport first
    rw [silent.2] at replied
    exact nomatch replied
  | some question =>
    have value :=
      (process_of_question timing forwarder resolvers engine request client transport first).2
    rw [replied] at value
    split at value
    · obtain rfl := Option.some.inj value
      rfl
    unfold replyBy at value
    split at value
    · exact nomatch value
    next decision _ =>
      split at value
      · obtain rfl := Option.some.inj value
        rfl
      · obtain rfl := Option.some.inj value
        unfold redirection
        split <;> rfl
      · obtain rfl := Option.some.inj value
        cases answered : (forwarder request engine.timeoutMs engine.maxRetries resolvers).1 with
        | ok response => exact echoes _ _ _ _ _ answered
        | error error => rfl

end Engine

/-- The resolvers answer with the identifier of the query. -/
theorem Services.echoes_forwarder (servers : Resolver.Servers C σ) :
    (forwarder servers).Echoes := by
  intro query timeoutMs maxRetries session response answered
  obtain ⟨pool, events, accepted⟩ := Resolver.Session.exists_pool_answer answered
  exact (Resolver.Pool.exists_receives_of_complete accepted).1

namespace Server

/-- A reply that is written, be it cut or not, begins with its identifier. -/
theorem take_two_of_encodeReply? {transport : Transport} {request reply : Message} {bytes : Bytes}
    (written : encodeReply? transport request reply = some bytes) :
    bytes.take 2 = Bytes.ofUInt16 reply.id := by
  cases transport with
  | tcp =>
    obtain ⟨rfl, -⟩ := Message.eq_octets_of_encode? written
    exact reply.take_two_octets
  | udp =>
    rcases Message.encodeForDatagram?_cases written with ⟨-, rfl⟩ | ⟨-, rfl⟩
    · exact reply.take_two_octets
    · exact reply.truncate.take_two_octets

/-- The octets begin with the identifier of a request, which the message that came in spells and
begins with. -/
def Echoes (arrival : Arrival) (bytes : Bytes) : Prop :=
  ∃ request, Message.decode arrival.read = .ok request ∧ bytes.take 2 = Bytes.ofUInt16 request.id ∧
    arrival.read.take 2 = Bytes.ofUInt16 request.id

/-- A reply that is sent has the identifier of the message that it answers. -/
theorem answer_echoes {forwarder : Engine.Forwarder σ} (echoes : forwarder.Echoes)
    {arrival : Arrival} {state : State σ} {bytes : Bytes}
    (sent : (answer forwarder arrival state).value = some bytes) :
    Echoes arrival bytes := by
  unfold answer at sent
  split at sent
  · split at sent
    · exact nomatch sent
    next request read =>
      obtain ⟨reply, replied, written⟩ := Option.bind_eq_some_iff.mp sent
      refine ⟨request, read, ?_, Message.take_two_of_decode read⟩
      rw [take_two_of_encodeReply? written, Engine.id_of_process echoes replied]
  · exact nomatch sent

/-- The messages among what happens. -/
def messages (happenings : List Happening) : List Arrival :=
  happenings.filterMap fun
    | .message arrival => some arrival
    | .accept _ => none

/-- Whatever datagrams and frames come in, whatever the filters are set to and whatever the
resolvers do, each reply that is sent in a run begins with the identifier of the request that it is
a reply to. -/
theorem run_echoes_ids (servers : Resolver.Servers C σ) (happenings : List Happening)
    (state : State (Resolver.Session C σ)) :
    List.Forall₂ (fun arrival sent => ∀ bytes, sent = some bytes → Echoes arrival bytes)
      (messages happenings) (run (Services.forwarder servers) happenings state).value := by
  induction happenings generalizing state with
  | nil => exact .nil
  | cons happening rest ih =>
    cases happening with
    | accept value => exact ih (State.accept state value)
    | message arrival =>
      refine .cons (fun bytes sent => ?_) (ih _)
      exact answer_echoes (Services.echoes_forwarder servers) sent

/-- A datagram whose answer is cut and asked for again over a connection, and a frame that is
refused. -/
theorem run_echoes_ids_both :
    let asked (id : UInt16) (name : Name) : Message :=
      { id, questions := [⟨name, RecordType.ns, classInternet⟩] }
    let relayed := asked 0x1234 .root
    let refused := asked 0xFE01 ⟨[[97]], by decide, by decide⟩
    let answer : Message := { relayed with response := true, authoritative := true }
    let servers : Resolver.Servers Unit Unit := fun _ _ _ state =>
      ({ events := [.turn, .datagram { answer with truncated := true }.octets,
          .stream (.connected (.ok ())), .stream (.answered (.ok answer.octets))] }, state)
    let session : Resolver.Session Unit Unit :=
      { group :=
          { members := [⟨{ id := "near", address := "192.0.2.2" }, {},
              { server := .v4 ⟨192, 0, 2, 2⟩ 53, table := .empty Unit 1 }⟩]
            downAfter := 3 }
        servers := () }
    let engine : Engine :=
      { filters :=
          { isBlocked := none
            decide := fun domain => .ok (if domain = "." then .allow else .deny "rule") }
        status := { accepting := true }
        metrics := .start 1000 1000 0 }
    let arrival (transport : Transport) (request : Message) : Arrival :=
      { transport, client := .v4 .loopback 40000, bytes := request.octets, timing := ⟨0, 0⟩ }
    let happenings : List Happening :=
      [.message (arrival .udp relayed), .message (arrival .tcp refused)]
    (run (Services.forwarder servers) happenings (engine, session)).value =
        [some answer.octets, some refused.refused.octets] ∧
      Echoes (arrival .udp relayed) answer.octets ∧
        Echoes (arrival .tcp refused) refused.refused.octets := by
  intro asked relayed refused answer servers session engine arrival happenings
  have value : (run (Services.forwarder servers) happenings (engine, session)).value =
      [some answer.octets, some refused.refused.octets] := by
    decide +kernel
  have echoes := run_echoes_ids servers happenings (engine, session)
  rw [value] at echoes
  obtain ⟨first, others⟩ := List.forall₂_cons.mp echoes
  obtain ⟨second, -⟩ := List.forall₂_cons.mp others
  exact ⟨value, first _ rfl, second _ rfl⟩

end Server

end DnsForwarder
