import DnsForwarder.Proofs.Server.Connection
import DnsForwarder.Proofs.Server.Identifiers

/-!
# Pauses

While queries are not taken, the listeners still read, but what they read leaves no trace: a run
goes as if the messages of its pauses had never been sent, and the frames among them are passed over
on their connections (`DnsForwarder.Server.pauses_leave_no_trace`).
-/

namespace DnsForwarder.Server

variable {σ : Type} (forwarder : Engine.Forwarder σ)

/-- Whether queries are taken after what happens. -/
def takes (taking : Bool) (happenings : List Happening) : Bool :=
  happenings.foldl (fun taking happening =>
    match happening with
    | .accept value => value
    | .message _ => taking) taking

/-- What happens, without the messages of pauses. -/
def heard : (taking : Bool) → List Happening → List Happening
  | _, [] => []
  | _, .accept value :: rest => .accept value :: heard value rest
  | true, .message arrival :: rest => .message arrival :: heard true rest
  | false, .message _ :: rest => heard false rest

/-- Replies to what is heard, with a gap for each message of a pause. -/
def withGaps : (taking : Bool) → List Happening → List (Option Bytes) → List (Option Bytes)
  | _, [], _ => []
  | _, .accept value :: rest, replies => withGaps value rest replies
  | true, .message _ :: rest, replies => replies.head?.join :: withGaps true rest replies.tail
  | false, .message _ :: rest, replies => none :: withGaps false rest replies

/-- The frames among what happens are no longer than a frame can be. -/
def FramesFit (happenings : List Happening) : Prop :=
  ∀ arrival ∈ messages happenings, arrival.transport = .tcp → arrival.bytes.length ≤ Frame.maxLength

instance (happenings : List Happening) : Decidable (FramesFit happenings) :=
  inferInstanceAs (Decidable (∀ arrival ∈ messages happenings, _))

/-- The messages that are heard are among those sent, in order. -/
theorem messages_heard_sublist (taking : Bool) (happenings : List Happening) :
    (messages (heard taking happenings)).Sublist (messages happenings) := by
  induction happenings generalizing taking with
  | nil => exact .slnil
  | cons happening rest ih =>
    cases happening with
    | accept value => exact ih value
    | message arrival =>
      cases taking with
      | true => exact (ih true).cons_cons arrival
      | false => exact (ih false).cons arrival

/-- Of frames that fit those that are heard do. -/
theorem FramesFit.heard {happenings : List Happening} (fit : FramesFit happenings) (taking : Bool) :
    FramesFit (heard taking happenings) :=
  fun arrival member => fit arrival ((messages_heard_sublist taking happenings).mem member)

/-- Of two stretches the second is heard as the first leaves off. -/
theorem heard_append (taking : Bool) (before after : List Happening) :
    heard taking (before ++ after) = heard taking before ++ heard (takes taking before) after := by
  induction before generalizing taking with
  | nil => rfl
  | cons happening rest ih =>
    cases happening with
    | accept value => exact congrArg _ (ih value)
    | message arrival =>
      cases taking with
      | true => exact congrArg _ (ih true)
      | false => exact ih false

variable {forwarder} in
/-- A message of a pause gets no reply and leaves no trace. -/
theorem answer_of_pause {state : State σ} (paused : state.1.status.accepting = false)
    (arrival : Arrival) : answer forwarder arrival state = ⟨none, state, []⟩ := by
  rw [answer, paused]
  exact if_neg Bool.false_ne_true

/-- A message does not change whether queries are taken. -/
theorem accepting_answer (arrival : Arrival) (state : State σ) :
    (answer forwarder arrival state).state.1.status.accepting = state.1.status.accepting := by
  unfold answer
  split
  · split
    · rfl
    · exact Engine.accepting_run arrival.timing forwarder _ _
  · rfl

/-- Only switching changes whether queries are taken. -/
theorem accepting_run (happenings : List Happening) (state : State σ) :
    (run forwarder happenings state).state.1.status.accepting =
      takes state.1.status.accepting happenings := by
  induction happenings generalizing state with
  | nil => rfl
  | cons happening rest ih =>
    cases happening with
    | accept value => exact ih (State.accept state value)
    | message arrival =>
      refine (ih (answer forwarder arrival state).state).trans ?_
      rw [accepting_answer]
      rfl

/-- A run goes as if the messages of its pauses had not been sent. -/
theorem run_heard (happenings : List Happening) (state : State σ) :
    let taking := state.1.status.accepting
    let here := run forwarder happenings state
    let other := run forwarder (heard taking happenings) state
    here.state = other.state ∧ here.asked = other.asked ∧
      here.value = withGaps taking happenings other.value := by
  induction happenings generalizing state with
  | nil => exact ⟨rfl, rfl, rfl⟩
  | cons happening rest ih =>
    cases happening with
    | accept value => exact ih (State.accept state value)
    | message arrival =>
      obtain ⟨states, asked, value⟩ := ih (answer forwarder arrival state).state
      rw [accepting_answer] at states asked value
      dsimp only
      cases taking : state.1.status.accepting with
      | true =>
        rw [taking] at states asked value
        exact ⟨states, congrArg (_ ++ ·) asked, congrArg (_ :: ·) value⟩
      | false =>
        rw [answer_of_pause taking, taking] at states asked value
        rw [run, answer_of_pause taking]
        exact ⟨states, asked, congrArg (none :: ·) value⟩

section Connections

variable (client : Net.SocketAddress)

/-- A message comes as a frame on the connection of a client. -/
def Arrival.IsFrameOf (arrival : Arrival) : Prop :=
  arrival.transport = .tcp ∧ arrival.client = client

instance (arrival : Arrival) : Decidable (arrival.IsFrameOf client) :=
  inferInstanceAs (Decidable (_ ∧ _))

variable {client} in
/-- A frame of a client is given by its octets and its timing. -/
theorem Arrival.IsFrameOf.eq {arrival : Arrival} (own : arrival.IsFrameOf client) :
    ⟨.tcp, client, arrival.bytes, arrival.timing⟩ = arrival := by
  obtain ⟨transport, sender, bytes, timing⟩ := arrival
  obtain ⟨⟨⟩, ⟨⟩⟩ := own
  rfl

/-- Something happens before the first of some frames. -/
def precede (happening : Happening) :
    List (List Happening × Arrival) → List (List Happening × Arrival)
  | [] => []
  | (others, arrival) :: rest => (happening :: others, arrival) :: rest

/-- The frames of a client, each with what happens between the one before and itself. -/
def framesOf : List Happening → List (List Happening × Arrival)
  | [] => []
  | .accept value :: rest => precede (.accept value) (framesOf rest)
  | .message arrival :: rest =>
    if arrival.IsFrameOf client then ([], arrival) :: framesOf rest
    else precede (.message arrival) (framesOf rest)

/-- The turns of a connection on which frames come. While it waits for one, everything else
happens. -/
def turnsOf (frames : List (List Happening × Arrival)) (number : Nat) : Turn σ :=
  match frames[number]? with
  | some (others, arrival) =>
    { meanwhile := fun state => (run forwarder others state).state, timing := arrival.timing }
  | none => { timing := ⟨0, 0⟩ }

/-- How the connection of a client goes whose frames come among everything that happens. -/
def connection (happenings : List Happening) (state : State σ) : Service :=
  let frames := framesOf client happenings
  (serveConnection forwarder client (turnsOf forwarder frames)
    (Frame.writeAll [] (frames.map (·.2.bytes))) state).value

/-- The replies to the frames of a client. -/
def repliesTo (happenings : List Happening) (replies : List (Option Bytes)) : List Bytes :=
  ((messages happenings).zip replies).filterMap fun (arrival, reply) =>
    if arrival.IsFrameOf client then reply else none

/-- What is answered to frames, each after what happens before it. -/
def replies : List (List Happening × Arrival) → State σ → List (Option Bytes)
  | [], _ => []
  | (others, arrival) :: rest, state =>
    let first := answer forwarder arrival (run forwarder others state).state
    first.value :: replies rest first.state

/-- What happens before the first frame of a client is done with before the frame is answered. -/
theorem replies_precede (happening : Happening) (frames : List (List Happening × Arrival))
    (state : State σ) :
    replies forwarder (precede happening frames) state =
      replies forwarder frames (run forwarder [happening] state).state := by
  cases frames with
  | nil => rfl
  | cons frame rest =>
    obtain ⟨others, arrival⟩ := frame
    have before := congrArg Dialogue.Outcome.state (run_append forwarder [happening] others state)
    rw [List.singleton_append] at before
    rw [precede, replies, before]
    rfl

/-- The reply to a message is among those to the client if it is a frame of the client. -/
theorem repliesTo_cons (arrival : Arrival) (rest : List Happening) (reply : Option Bytes)
    (others : List (Option Bytes)) :
    repliesTo client (.message arrival :: rest) (reply :: others) =
      (if arrival.IsFrameOf client then reply else none).toList ++ repliesTo client rest others :=
  Resolver.filterMap_cons_toList _ _ _

/-- The replies of a run to the frames of a client are those to the frames one after the other, with
what happens between them. -/
theorem repliesTo_run (happenings : List Happening) (state : State σ) :
    repliesTo client happenings (run forwarder happenings state).value =
      (replies forwarder (framesOf client happenings) state).reduceOption := by
  induction happenings generalizing state with
  | nil => rfl
  | cons happening rest ih =>
    cases happening with
    | accept value =>
      rw [framesOf, replies_precede]
      exact ih (State.accept state value)
    | message arrival =>
      have others := ih (answer forwarder arrival state).state
      rw [run, repliesTo_cons, others, framesOf]
      by_cases own : arrival.IsFrameOf client
      · rw [if_pos own, if_pos own]
        exact (Resolver.filterMap_cons_toList id _ _).symm
      · rw [if_neg own, if_neg own, replies_precede]
        rfl

/-- The messages of pauses get no replies on any connection. -/
theorem repliesTo_heard (happenings : List Happening) (state : State σ) :
    repliesTo client happenings (run forwarder happenings state).value =
      repliesTo client (heard state.1.status.accepting happenings)
        (run forwarder (heard state.1.status.accepting happenings) state).value := by
  induction happenings generalizing state with
  | nil => rfl
  | cons happening rest ih =>
    cases happening with
    | accept value => exact ih (State.accept state value)
    | message arrival =>
      have others := ih (answer forwarder arrival state).state
      rw [accepting_answer] at others
      rw [run, repliesTo_cons, others]
      cases taking : state.1.status.accepting with
      | true => exact (repliesTo_cons client arrival _ _ _).symm
      | false =>
        rw [answer_of_pause taking, ite_self]
        rfl

/-- What happens before a frame does not change the frames. -/
theorem arrivals_precede (happening : Happening) (frames : List (List Happening × Arrival)) :
    (precede happening frames).map (·.2) = frames.map (·.2) := by
  cases frames <;> rfl

/-- The frames of a client are among the messages, in order. -/
theorem arrivals_framesOf (happenings : List Happening) :
    (framesOf client happenings).map (·.2) =
      (messages happenings).filter (·.IsFrameOf client) := by
  induction happenings with
  | nil => rfl
  | cons happening rest ih =>
    cases happening with
    | accept value => exact (arrivals_precede _ _).trans ih
    | message arrival =>
      have front : messages (.message arrival :: rest) = arrival :: messages rest := rfl
      rw [front, List.filter_cons, framesOf]
      by_cases own : arrival.IsFrameOf client
      · rw [if_pos own, if_pos (decide_eq_true own), List.map_cons, ih]
      · rw [if_neg own, if_neg (mt of_decide_eq_true own), arrivals_precede, ih]

variable {forwarder} in
/-- A reply to a frame is no longer than a frame can be. -/
theorem length_le_of_answer {arrival : Arrival} (framed : arrival.transport = .tcp)
    {state : State σ} {bytes : Bytes} (sent : (answer forwarder arrival state).value = some bytes) :
    bytes.length ≤ Frame.maxLength := by
  unfold answer at sent
  split at sent
  · split at sent
    · exact nomatch sent
    · obtain ⟨reply, -, written⟩ := Option.bind_eq_some_iff.mp sent
      rw [framed] at written
      obtain ⟨rfl, short⟩ := Message.eq_octets_of_encode? written
      exact short
  · exact nomatch sent

/-- The connection of a client is not interrupted. -/
theorem turnsOf_interruption (frames : List (List Happening × Arrival)) (number : Nat) :
    (turnsOf forwarder frames number).interruption = none := by
  unfold turnsOf
  split <;> rfl

/-- At the turn of a frame comes what happens before it. -/
theorem turnsOf_length (front rest : List (List Happening × Arrival)) (others : List Happening)
    (arrival : Arrival) :
    turnsOf forwarder (front ++ (others, arrival) :: rest) front.length =
      { meanwhile := fun state => (run forwarder others state).state,
        timing := arrival.timing } := by
  have here : (front ++ (others, arrival) :: rest)[front.length]? = some (others, arrival) := by
    rw [List.getElem?_append_right le_rfl, Nat.sub_self, List.getElem?_cons_zero]
  rw [turnsOf, here]

/-- What goes back on a connection are the replies to its frames. -/
theorem serveFrom_of_frames (front frames : List (List Happening × Arrival))
    (own : ∀ frame ∈ frames, frame.2.IsFrameOf client)
    (fit : ∀ frame ∈ frames, frame.2.bytes.length ≤ Frame.maxLength) (sent : Bytes)
    (state : State σ) :
    (serveFrom forwarder client (turnsOf forwarder (front ++ frames)) front.length
      (Frame.writeAll [] (frames.map (·.2.bytes))) sent state).value =
      ⟨Frame.writeAll sent (replies forwarder frames state).reduceOption, .ended⟩ := by
  -- A frame goes over to those in front, which keeps the turns, and moves what was sent and the
  -- state on.
  induction frames generalizing front sent state with
  | nil =>
    exact serveFrom_of_incomplete (turnsOf_interruption forwarder _)
      Frame.incomplete_nil _ sent state
  | cons frame rest ih =>
    obtain ⟨others, arrival⟩ := frame
    obtain ⟨own, own_rest⟩ := List.forall_mem_cons.mp own
    obtain ⟨fits, fit_rest⟩ := List.forall_mem_cons.mp fit
    have encoded := Frame.encode_of_le fits
    have turn := turnsOf_length forwarder front rest others arrival
    have waits := turnsOf_interruption forwarder (front ++ (others, arrival) :: rest)
    have later := ih (front ++ [(others, arrival)]) own_rest fit_rest
    rw [List.append_assoc, List.singleton_append, List.length_append, List.length_singleton]
      at later
    -- From here on only this turn and what the others come to matter.
    generalize turnsOf forwarder (front ++ _ :: rest) = turns at turn waits later
    set first := answer forwarder arrival (run forwarder others state).state
    have answered : answer forwarder ⟨.tcp, client, arrival.bytes, (turns front.length).timing⟩
        ((turns front.length).meanwhile state) = first := by
      rw [turn, own.eq]
    have back_fits : ∀ bytes, first.value = some bytes → bytes.length ≤ Frame.maxLength :=
      fun bytes back => length_le_of_answer own.1 back
    have written : (turns front.length).write sent first.value =
        .ok (Frame.writeAll sent first.value.toList) :=
      Turn.write_of_fits (congrArg Turn.writeFault turn) back_fits sent
    rw [List.map_cons, Frame.writeAll_cons_nil encoded,
      serveFrom_of_frame waits encoded _ answered written, later, replies,
      writeAll_reduceOption_cons]

/-- A connection sends the replies to its frames one after the other, and then ends. -/
theorem connection_eq {happenings : List Happening} (fit : FramesFit happenings) (state : State σ) :
    let replies := repliesTo client happenings (run forwarder happenings state).value
    connection forwarder client happenings state = ⟨Frame.writeAll [] replies, .ended⟩ := by
  intro back
  have came : ∀ frame ∈ framesOf client happenings,
      frame.2 ∈ messages happenings ∧ frame.2.IsFrameOf client := by
    intro frame member
    have arrived : frame.2 ∈ (framesOf client happenings).map (·.2) := List.mem_map_of_mem member
    rw [arrivals_framesOf] at arrived
    obtain ⟨arrived, own⟩ := List.mem_filter.mp arrived
    exact ⟨arrived, of_decide_eq_true own⟩
  rw [show back = _ from repliesTo_run forwarder client happenings state]
  refine serveFrom_of_frames forwarder client [] _
    (fun frame member => (came frame member).2) ?_ [] state
  intro frame member
  obtain ⟨arrived, framed, -⟩ := came frame member
  exact fit frame.2 arrived framed

end Connections

/-- At each moment of a run the state, the replies and what was asked are as if the messages of the
pauses had not been sent, and a message that comes while queries are not taken gets no reply, asks
for nothing and changes nothing. On each connection all frames are read up to the end of the stream,
and what goes back is the same too: the replies to the other frames. -/
theorem pauses_leave_no_trace {happenings : List Happening} (fit : FramesFit happenings)
    (state : State σ) :
    let taking := state.1.status.accepting
    (∀ before after, happenings = before ++ after →
      let here := run forwarder before state
      let other := run forwarder (heard taking before) state
      here.state = other.state ∧ here.asked = other.asked ∧
        here.value = withGaps taking before other.value ∧
        heard taking happenings = heard taking before ++ heard (takes taking before) after ∧
        here.state.1.status.accepting = takes taking before ∧
        (takes taking before = false →
          ∀ arrival, answer forwarder arrival here.state = ⟨none, here.state, []⟩)) ∧
      ∀ client,
        let replies := repliesTo client happenings (run forwarder happenings state).value
        connection forwarder client happenings state = ⟨Frame.writeAll [] replies, .ended⟩ ∧
          connection forwarder client (heard taking happenings) state =
            ⟨Frame.writeAll [] replies, .ended⟩ := by
  intro taking
  constructor
  · rintro before after rfl
    obtain ⟨states, asked, value⟩ := run_heard forwarder before state
    have accepting := accepting_run forwarder before state
    exact ⟨states, asked, value, heard_append taking before after, accepting,
      fun paused => answer_of_pause (accepting.trans paused)⟩
  · intro client replies
    refine ⟨connection_eq forwarder client fit state, ?_⟩
    have others := connection_eq forwarder client (fit.heard taking) state
    rw [← repliesTo_heard] at others
    exact others

/-- Queries are switched off and on again between two frames of a client, and meanwhile a datagram
with a request and a frame with no message come in. -/
theorem pauses_leave_no_trace_between_frames :
    let asked (id : UInt16) : Message := { id, questions := [⟨.root, RecordType.a, classInternet⟩] }
    let engine : Engine :=
      { filters := { isBlocked := none, decide := fun _ => .ok (.deny "rule") }
        status := { accepting := true }
        metrics := .start 1000 1000 0 }
    let forwarder : Engine.Forwarder Unit := fun _ _ _ state => (.error .noHealthyServers, state)
    let client : Net.SocketAddress := .v4 .loopback 40000
    let arrival (transport : Transport) (bytes : Bytes) : Happening :=
      .message { transport, client, bytes, timing := ⟨0, 0⟩ }
    let first := arrival .tcp (asked 1).octets
    let last := arrival .tcp (asked 4).octets
    let happenings : List Happening :=
      [first, .accept false, arrival .udp (asked 2).octets, arrival .tcp [7], .accept true, last]
    let quiet : List Happening := [first, .accept false, .accept true, last]
    let sent := Frame.writeAll [] [(asked 1).refused.octets, (asked 4).refused.octets]
    FramesFit happenings ∧ heard true happenings = quiet ∧
      (run forwarder happenings (engine, ())).state = (run forwarder quiet (engine, ())).state ∧
      connection forwarder client happenings (engine, ()) = ⟨sent, .ended⟩ ∧
      connection forwarder client quiet (engine, ()) = ⟨sent, .ended⟩ := by
  intro asked engine forwarder client arrival first last happenings quiet sent
  have fit : FramesFit happenings := by decide +kernel
  obtain ⟨moments, connections⟩ := pauses_leave_no_trace forwarder fit (engine, ())
  have kept : heard (engine, ()).1.status.accepting happenings = quiet := rfl
  rw [kept] at connections
  obtain ⟨same, -⟩ := moments happenings [] (List.append_nil _).symm
  rw [kept] at same
  obtain ⟨here, other⟩ := connections client
  have replied : Frame.writeAll []
      (repliesTo client happenings (run forwarder happenings (engine, ())).value) = sent := by
    decide +kernel
  rw [replied] at here other
  exact ⟨fit, kept, same, here, other⟩

end DnsForwarder.Server
