import DnsForwarder.Proofs.Engine.Gating
import DnsForwarder.Proofs.Message.Framing
import DnsForwarder.Proofs.Message.Truncation
import DnsForwarder.Server.Connection
import Mathlib.Data.List.ReduceOption

/-!
# The order of service on a connection

The replies on a connection stand in the order of the frames that they are replies to. A frame that
is no request, a request without a question, one that the policy fails for and one whose reply
cannot be written leave a gap and nothing else: the frames behind them are answered as if nothing
had been there (`DnsForwarder.Server.serveConnection_in_order`).
-/

namespace DnsForwarder

variable {σ : Type}

namespace Engine

/-- The blocklist does not cover a domain, so that the policy is asked about it, and that fails. -/
def Filters.PolicyFails (filters : Filters) (domain : String) : Prop :=
  filters.blocks domain = false ∧ ∃ error, filters.decide domain = .error error

/-- A dialogue does not change whether queries are taken. -/
theorem accepting_run {α : Type} (timing : Timing) (forwarder : Forwarder σ)
    (dialogue : Dialogue interface α) (state : Engine × σ) :
    (dialogue.run (I := interface) (tell timing forwarder) state).state.1.status.accepting =
      state.1.status.accepting := by
  induction dialogue generalizing state with
  | done value => rfl
  | ask request next ih =>
    refine (ih _ _).trans ?_
    cases request <;> rfl

/-- There is a reply exactly if there is a question and the policy does not fail. -/
theorem exists_reply_iff {timing : Timing} {forwarder : Forwarder σ} {engine : Engine}
    {resolvers : σ} {request : Message} {client : Net.SocketAddress} {transport : Transport} :
    (∃ reply, (engine.process timing forwarder resolvers request client transport).value =
      some reply) ↔
      ∃ question, request.questions.head? = some question ∧
        ¬ engine.filters.PolicyFails (toString question.name) := by
  cases first : request.questions.head? with
  | none =>
    have silent :=
      process_of_no_question timing forwarder resolvers engine request client transport first
    rw [silent.2]
    exact iff_of_false nofun nofun
  | some question =>
    have value :=
      (process_of_question timing forwarder resolvers engine request client transport first).2
    cases blocked : engine.filters.blocks (toString question.name) with
    | true =>
      rw [blocked] at value
      refine iff_of_true ⟨_, value⟩ ⟨question, rfl, fun fails => ?_⟩
      rw [Filters.PolicyFails, blocked] at fails
      exact nomatch fails.1
    | false =>
      rw [blocked] at value
      constructor
      · rintro ⟨reply, replied⟩
        refine ⟨question, rfl, fun fails => ?_⟩
        rw [value, if_neg Bool.false_ne_true, replyBy_eq_none_iff.mpr fails.2] at replied
        exact nomatch replied
      · rintro ⟨_, ⟨⟩, decided⟩
        apply Option.ne_none_iff_exists'.mp
        rw [value, if_neg Bool.false_ne_true]
        exact fun silent => decided ⟨blocked, replyBy_eq_none_iff.mp silent⟩

end Engine

namespace Server

variable (forwarder : Engine.Forwarder σ) (client : Net.SocketAddress)

/-- A frame is a request, and a message is the reply to it. -/
def IsReply (timing : Engine.Timing) (state : State σ) (frame : Bytes) (reply : Message) : Prop :=
  ∃ request, Message.decode frame = .ok request ∧
    (state.1.process timing forwarder state.2 request client .tcp).value = some reply

/-- A frame is a request that has a question and that the policy does not fail for. -/
def IsAnswerable (state : State σ) (frame : Bytes) : Prop :=
  ∃ request question, Message.decode frame = .ok request ∧
    request.questions.head? = some question ∧
    ¬ state.1.filters.PolicyFails (toString question.name)

/-- The state after a frame. What is no request leaves it as it is. -/
def afterFrame (timing : Engine.Timing) (state : State σ) (frame : Bytes) : State σ :=
  match Message.decode frame with
  | .error _ => state
  | .ok request => (state.1.process timing forwarder state.2 request client .tcp).state

/-- Frames are answered one after the other, in turns that follow each other. A frame has a reply if
it is a request with a question that the policy does not fail for, and only then. What goes back for
it is that reply, if there is one and it can be written, and else nothing. -/
inductive InOrder (turns : Nat → Turn σ) :
    Nat → State σ → List Bytes → List (Option Bytes) → Prop where
  | nil {number : Nat} {state : State σ} : InOrder turns number state [] []
  | cons {number : Nat} {before state : State σ} {frame : Bytes} {frames : List Bytes}
      {back : Option Bytes} {others : List (Option Bytes)}
      (meanwhile : (turns number).meanwhile before = state)
      (replied : (∃ reply, IsReply forwarder client (turns number).timing state frame reply) ↔
        IsAnswerable state frame)
      (own : ∀ bytes, back = some bytes ↔
        ∃ reply, IsReply forwarder client (turns number).timing state frame reply ∧
          reply.encode? = some bytes)
      (rest : InOrder turns (number + 1)
        (afterFrame forwarder client (turns number).timing state frame) frames others) :
      InOrder turns number before (frame :: frames) (back :: others)

/-- Every frame is waited for, every reply can be written, and queries are taken all the time. -/
structure Undisturbed (turns : Nat → Turn σ) : Prop where
  waits : ∀ number, (turns number).interruption = none
  writes : ∀ number, (turns number).writeFault = none
  accepts : ∀ number (state : State σ), state.1.status.accepting = true →
    ((turns number).meanwhile state).1.status.accepting = true

/-- A frame has a reply if it is a request with a question that the policy does not fail for, and
only then. -/
theorem exists_isReply_iff {timing : Engine.Timing} {state : State σ} {frame : Bytes} :
    (∃ reply, IsReply forwarder client timing state frame reply) ↔ IsAnswerable state frame := by
  constructor
  · rintro ⟨reply, request, read, replied⟩
    obtain ⟨question, first, decided⟩ := Engine.exists_reply_iff.mp ⟨reply, replied⟩
    exact ⟨request, question, read, first, decided⟩
  · rintro ⟨request, question, read, first, decided⟩
    obtain ⟨reply, replied⟩ := Engine.exists_reply_iff.mpr ⟨question, first, decided⟩
    exact ⟨reply, request, read, replied⟩

/-- What goes back for a frame is the reply to it, if there is one that can be written. -/
theorem answer_of_frame {state : State σ} (accepting : state.1.status.accepting = true)
    (timing : Engine.Timing) (frame : Bytes) :
    let outcome := answer forwarder { transport := .tcp, client, bytes := frame, timing } state
    (∀ bytes, outcome.value = some bytes ↔
      ∃ reply, IsReply forwarder client timing state frame reply ∧ reply.encode? = some bytes) ∧
      outcome.state = afterFrame forwarder client timing state frame ∧
      outcome.state.1.status.accepting = true := by
  intro outcome
  unfold IsReply afterFrame
  have answered :
      outcome = answer forwarder { transport := .tcp, client, bytes := frame, timing } state := rfl
  rw [answer, if_pos accepting] at answered
  change outcome = match Message.decode frame with
    | .error _ => ⟨none, state, []⟩
    | .ok request =>
      let outcome := state.1.process timing forwarder state.2 request client .tcp
      { outcome with value := outcome.value.bind fun reply => reply.encode? } at answered
  rw [answered]
  cases Message.decode frame with
  | error fault => exact ⟨by simp, rfl, accepting⟩
  | ok request =>
    refine ⟨fun bytes => ?_, rfl, (Engine.accepting_run timing forwarder _ _).trans accepting⟩
    constructor
    · intro sent
      obtain ⟨reply, replied, written⟩ := Option.bind_eq_some_iff.mp sent
      exact ⟨reply, ⟨request, rfl, replied⟩, written⟩
    · rintro ⟨reply, ⟨_, ⟨⟩, replied⟩, written⟩
      exact Option.bind_eq_some_iff.mpr ⟨reply, replied, written⟩

variable {forwarder client}

/-- What goes back is put behind what was sent before, in a frame of its own. -/
theorem Turn.write_of_fits {turn : Turn σ} (writes : turn.writeFault = none) {back : Option Bytes}
    (fits : ∀ bytes, back = some bytes → bytes.length ≤ Frame.maxLength) (sent : Bytes) :
    turn.write sent back = .ok (Frame.writeAll sent back.toList) := by
  cases back with
  | none => rfl
  | some bytes =>
    have encoded := Frame.encode_of_le (fits bytes rfl)
    rw [Option.toList_some, Frame.writeAll_cons encoded, Turn.write, encoded, writes]
    rfl

/-- A reply is written in front of the others, and a gap is not written. -/
theorem writeAll_reduceOption_cons (sent : Bytes) (back : Option Bytes)
    (others : List (Option Bytes)) :
    Frame.writeAll sent (back :: others).reduceOption =
      Frame.writeAll (Frame.writeAll sent back.toList) others.reduceOption := by
  cases back <;> rfl

section Turns

variable {turns : Nat → Turn σ}

/-- At the rest of a frame a connection ends with what was sent so far. -/
theorem serveFrom_of_incomplete (waits : ∀ number, (turns number).interruption = none)
    {rest : Bytes} (incomplete : Frame.Incomplete rest) (number : Nat) (sent : Bytes)
    (state : State σ) :
    (serveFrom forwarder client turns number rest sent state).value = ⟨sent, .ended⟩ := by
  have ended := Frame.decode_eq_error_iff.mpr incomplete
  rw [serveFrom, waits]
  dsimp only
  split
  next fault read =>
    obtain rfl := Except.error.inj (read.symm.trans ended)
    rfl
  next read => cases read.symm.trans ended

/-- A frame is answered, its reply is sent, and the connection goes on behind it. -/
theorem serveFrom_of_frame (waits : ∀ number, (turns number).interruption = none)
    {message frame sent after : Bytes} (encoded : Frame.encode message = .ok frame) (rest : Bytes)
    {number : Nat} {state : State σ}
    {first : Dialogue.Outcome Engine.interface (State σ) (Option Bytes)}
    (answered : answer forwarder
      { transport := .tcp, client, bytes := message, timing := (turns number).timing }
      ((turns number).meanwhile state) = first)
    (written : (turns number).write sent first.value = .ok after) :
    (serveFrom forwarder client turns number (frame ++ rest) sent state).value =
      (serveFrom forwarder client turns (number + 1) rest after first.state).value := by
  have front := Frame.decode_append encoded rest
  rw [serveFrom, waits]
  dsimp only
  split
  next read => cases read.symm.trans front
  next read =>
    obtain ⟨rfl, rfl⟩ := Prod.mk.inj (Except.ok.inj (read.symm.trans front))
    rw [answered, written]

/-- From any turn on and behind anything that was sent before, the replies follow in the order of
the frames. -/
theorem serveFrom_in_order (undisturbed : Undisturbed turns) {rest : Bytes}
    (incomplete : Frame.Incomplete rest) {frames : List Bytes}
    (fit : ∀ frame ∈ frames, frame.length ≤ Frame.maxLength) (number : Nat) (sent : Bytes)
    {state : State σ} (accepting : state.1.status.accepting = true) :
    ∃ replies, InOrder forwarder client turns number state frames replies ∧
      (∀ bytes ∈ replies.reduceOption, bytes.length ≤ Frame.maxLength) ∧
      (serveFrom forwarder client turns number (Frame.writeAll [] frames ++ rest) sent
        state).value =
        ⟨Frame.writeAll sent (replies.reduceOption), .ended⟩ := by
  -- A frame moves the turn, the stream that was sent and the state on, so all three are general.
  induction frames generalizing number sent state with
  | nil =>
    exact ⟨[], .nil, nofun, serveFrom_of_incomplete undisturbed.waits incomplete number sent state⟩
  | cons frame frames ih =>
    obtain ⟨fits, others⟩ := List.forall_mem_cons.mp fit
    obtain ⟨own, next, accepting⟩ := answer_of_frame forwarder client
      (undisturbed.accepts number state accepting) (turns number).timing frame
    generalize answered : answer forwarder _ _ = first at own next accepting
    -- A reply that was written has the size of a frame, so that writing it cannot fail.
    have back_fits : ∀ bytes, first.value = some bytes → bytes.length ≤ Frame.maxLength := by
      intro bytes back
      obtain ⟨reply, -, written⟩ := (own bytes).mp back
      obtain ⟨rfl, short⟩ := Message.eq_octets_of_encode? written
      exact short
    have written := Turn.write_of_fits (undisturbed.writes number) back_fits sent
    obtain ⟨replies, order, fit, value⟩ :=
      ih others (number + 1) (Frame.writeAll sent first.value.toList) accepting
    have encoded := Frame.encode_of_le fits
    refine ⟨first.value :: replies,
      .cons rfl (exists_isReply_iff forwarder client) own (next ▸ order), ?_, ?_⟩
    · intro bytes sent_back
      rcases List.mem_cons.mp (List.reduceOption_mem_iff.mp sent_back) with back | later
      · exact back_fits bytes back.symm
      · exact fit bytes (List.reduceOption_mem_iff.mpr later)
    · rw [Frame.writeAll_cons_nil encoded, List.append_assoc,
        serveFrom_of_frame undisturbed.waits encoded _ answered written, value,
        writeAll_reduceOption_cons]

end Turns

/-- A client sends frames and then, perhaps, the beginning of one, and nothing disturbs the
connection. Then what goes back is a stream of whole frames, one for each frame of the client's that
is a request with a question, that the policy does not fail for and whose reply can be written, in
the order of the requests, and each holds the reply to its own. The other frames leave a gap, and
the connection ends where no whole frame is left. -/
theorem serveConnection_in_order {turns : Nat → Turn σ} (undisturbed : Undisturbed turns)
    {state : State σ} (accepting : state.1.status.accepting = true) {frames : List Bytes}
    (fit : ∀ frame ∈ frames, frame.length ≤ Frame.maxLength) {rest : Bytes}
    (incomplete : Frame.Incomplete rest) :
    let service :=
      (serveConnection forwarder client turns (Frame.writeAll [] frames ++ rest) state).value
    ∃ replies, InOrder forwarder client turns 0 state frames replies ∧
      service.sent = Frame.writeAll [] replies.reduceOption ∧
      Frame.decodeAll service.sent = (replies.reduceOption, .unexpectedEnd, []) ∧
      service.closing = .ended := by
  intro service
  obtain ⟨replies, order, short, value⟩ :=
    serveFrom_in_order undisturbed incomplete fit 0 [] accepting
  have served : service = ⟨Frame.writeAll [] replies.reduceOption, .ended⟩ := value
  rw [served]
  exact ⟨replies, order, rfl, Frame.decodeAll_writeAll short, rfl⟩

/-- An empty frame, one that is no message, a message without a question and a request that the
policy fails for stand among two requests that are refused, and a frame that is cut off ends the
connection. -/
theorem serveConnection_in_order_gaps :
    let asked (id : UInt16) (name : Name) : Message :=
      { id, questions := [⟨name, RecordType.a, classInternet⟩] }
    let first := asked 1 .root
    let failing := asked 2 ⟨[[97]], by decide, by decide⟩
    let second := asked 3 .root
    let frames : List Bytes :=
      [[], first.octets, [7, 7, 7], { id := 9 : Message }.octets, failing.octets, second.octets]
    let engine : Engine :=
      { filters :=
          { isBlocked := none
            decide := fun domain =>
              if domain = "." then .ok (.deny "rule") else .error (.policyEvaluationFailed "off") }
        status := { accepting := true }
        metrics := .start 1000 1000 0 }
    let forwarder : Engine.Forwarder Unit := fun _ _ _ state => (.error .noHealthyServers, state)
    let turns : Nat → Turn Unit := fun number => { timing := ⟨number, 0⟩ }
    let client : Net.SocketAddress := .v4 .loopback 40000
    let stream := Frame.writeAll [] frames ++ [0, 9, 1]
    let service := (serveConnection forwarder client turns stream (engine, ())).value
    Undisturbed turns ∧ (∀ frame ∈ frames, frame.length ≤ Frame.maxLength) ∧
      Frame.Incomplete [0, 9, 1] ∧
      service.sent = Frame.writeAll [] [first.refused.octets, second.refused.octets] ∧
      ∃ replies, InOrder forwarder client turns 0 (engine, ()) frames replies ∧
        service.sent = Frame.writeAll [] replies.reduceOption ∧
        Frame.decodeAll service.sent = (replies.reduceOption, .unexpectedEnd, []) ∧
        service.closing = .ended := by
  intro asked first failing second frames engine forwarder turns client stream service
  have undisturbed : Undisturbed turns :=
    ⟨fun _ => rfl, fun _ => rfl, fun _ _ accepting => accepting⟩
  have fit : ∀ frame ∈ frames, frame.length ≤ Frame.maxLength := by decide +kernel
  have incomplete : Frame.Incomplete [0, 9, 1] := Frame.decode_eq_error_iff.mp rfl
  exact ⟨undisturbed, fit, incomplete, by decide +kernel,
    serveConnection_in_order undisturbed rfl fit incomplete⟩

end Server

end DnsForwarder
