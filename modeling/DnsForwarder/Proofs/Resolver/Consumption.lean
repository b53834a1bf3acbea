import DnsForwarder.Proofs.Resolver.Exchange
import DnsForwarder.Proofs.Resolver.LateReplies
import DnsForwarder.Resolver.Channel.Socket

/-!
# What exchanges read of a socket

An exchange sends its query once. It reads what waits on the socket in the order of arrival, up to
the first datagram that begins with the identifier of the query, and nothing behind that. So the
exchanges on a socket read portions of what arrives, one behind the other
(`DnsForwarder.Resolver.Channel.Socket.exchanges_read_in_order`).

As long as no call fails, an exchange on a socket is one on the channel
(`DnsForwarder.Resolver.Channel.Socket.exchange_eq`). In any case it returns what an exchange with a
pool hears when it asks on this socket (`DnsForwarder.Resolver.Pool.hear_exchange`).
-/

namespace DnsForwarder.Resolver

namespace Channel

/-- What an exchange that listens reads of a socket, what it leaves there, and what it returns. -/
inductive Listening (server : Net.SocketAddress) (id : UInt16) :
    (read left : List Arrival) → Except Error Bytes → Prop where
  /-- The last datagram that is read is the first that begins with the identifier. -/
  | answered (skipped : List Bytes) (datagram : Bytes) (left : List Arrival)
    (foreign : ∀ other ∈ skipped, ¬ Bytes.ofUInt16 id <+: other)
    (own : Bytes.ofUInt16 id <+: datagram) :
    Listening server id (skipped.map .ok ++ [.ok datagram]) left (.ok (datagram.take maxDatagram))
  /-- No datagram begins with the identifier, and the deadline is reached. -/
  | late (skipped : List Bytes) (foreign : ∀ other ∈ skipped, ¬ Bytes.ofUInt16 id <+: other) :
    Listening server id (skipped.map .ok) [] (.error (.timeout (toString server)))
  /-- A call fails before a datagram is read that begins with the identifier. -/
  | failed (skipped : List Bytes) (fault : Net.Fault) (left : List Arrival)
    (foreign : ∀ other ∈ skipped, ¬ Bytes.ofUInt16 id <+: other) :
    Listening server id (skipped.map .ok ++ [.error fault]) left (.error (fault.error server))

/-- What an exchange reads of a socket, what it leaves there, and what it returns. It does not
listen if its query cannot be sent. -/
inductive Reading (server : Net.SocketAddress) (asking : Asking) :
    (read left : List Arrival) → Except Error Bytes → Prop where
  | sent {read left : List Arrival} {result : Except Error Bytes} (whole : asking.sendFault = none)
    (listening : Listening server asking.id read left result) :
      Reading server asking read left result
  | unsent (left : List Arrival) (fault : Net.Fault) (broken : asking.sendFault = some fault) :
    Reading server asking [] left (.error (fault.error server))

/-- What exchanges read one after the other, in portions, and what is left in the end. Each reads
from the front of what is there, and what comes goes to the end. -/
inductive Readings (server : Net.SocketAddress) : (there : List Arrival) → List Asking →
    (portions : List (List Arrival)) → List (Except Error Bytes) →
    (left : List Arrival) → Prop where
  | none (there : List Arrival) : Readings server there [] [] [] there
  | next {there between portion left : List Arrival} {asking : Asking} {result : Except Error Bytes}
    {askings : List Asking} {portions : List (List Arrival)} {results : List (Except Error Bytes)}
    (front : there ++ asking.arriving = portion ++ between)
    (reading : Reading server asking portion between result)
    (others : Readings server between askings portions results left) :
    Readings server there (asking :: askings) (portion :: portions) (result :: results) left

variable {server : Net.SocketAddress} {id : UInt16}

/-- A datagram carries an identifier if it begins with its two octets, the more significant one
first. -/
theorem carries_iff (id : UInt16) (datagram : Bytes) :
    carries id (cut datagram) ↔ Bytes.ofUInt16 id <+: datagram := by
  rw [carries_cut]
  constructor
  · intro carried
    match datagram with
    | [] => cases carried
    | [_] => cases carried
    | high :: low :: rest =>
      obtain rfl : Bytes.toUInt16 high low = id := eq_of_beq carried
      rw [Bytes.ofUInt16_toUInt16]
      exact List.prefix_append [high, low] rest
  · rintro ⟨rest, rfl⟩
    exact beq_iff_eq.mpr (Bytes.toUInt16_ofUInt16 id)

/-- A datagram in front that does not begin with the identifier is read and passed over. -/
theorem Listening.skip {datagram : Bytes} {read left : List Arrival} {result : Except Error Bytes}
    (other : ¬ Bytes.ofUInt16 id <+: datagram) (listening : Listening server id read left result) :
    Listening server id (.ok datagram :: read) left result := by
  cases listening with
  | answered skipped own left foreign begins =>
    exact answered (datagram :: skipped) own left (List.forall_mem_cons.mpr ⟨other, foreign⟩) begins
  | late skipped foreign =>
    exact late (datagram :: skipped) (List.forall_mem_cons.mpr ⟨other, foreign⟩)
  | failed skipped fault left foreign =>
    exact failed (datagram :: skipped) fault left (List.forall_mem_cons.mpr ⟨other, foreign⟩)

/-- What listening reads is in front of what it leaves, and is read in one of the ways of
reading. -/
theorem listening_listen (server : Net.SocketAddress) (id : UInt16) (there : List Arrival) :
    ∃ read, there = read ++ (listen id there).2 ∧ Listening server id read (listen id there).2
      ((listen id there).1.mapError (Net.Fault.error server)) := by
  induction there with
  | nil => exact ⟨[], rfl, .late [] nofun⟩
  | cons arrival rest ih =>
    cases arrival with
    | error fault => exact ⟨[.error fault], rfl, .failed [] fault rest nofun⟩
    | ok datagram =>
      rw [listen]
      by_cases carried : carries id (cut datagram)
      · rw [if_pos carried]
        have own := (carries_iff id datagram).mp carried
        exact ⟨[.ok datagram], rfl, .answered [] datagram rest nofun own⟩
      · rw [if_neg carried]
        obtain ⟨read, split, listening⟩ := ih
        refine ⟨.ok datagram :: read, congrArg _ split, listening.skip ?_⟩
        rwa [← carries_iff]

/-- All that was there or came is in one of the portions or left, and in its order. -/
theorem Readings.arrived {there left : List Arrival} {askings : List Asking}
    {portions : List (List Arrival)} {results : List (Except Error Bytes)}
    (readings : Readings server there askings portions results left) :
    there ++ askings.flatMap Asking.arriving = portions.flatten ++ left := by
  induction readings with
  | none there => exact List.append_nil there
  | next front reading others ih =>
    rw [List.flatMap_cons, ← List.append_assoc, front, List.append_assoc, ih, List.flatten_cons,
      List.append_assoc]

namespace Socket

/-- A query that is sent whole is followed by listening, over what was unread and what arrives. -/
theorem exchange_of_sent {asking : Asking} (whole : asking.sendFault = none)
    (server : Net.SocketAddress) (socket : Socket) :
    let listened := listen asking.id (socket.unread ++ asking.arriving)
    socket.exchange server asking = (listened.1.mapError (Net.Fault.error server),
      { sent := socket.sent ++ [asking.query], unread := listened.2 }) := by
  rw [exchange, whole]

/-- After a query that could not be sent nothing is read, and what arrives stays unread. -/
theorem exchange_of_unsent {asking : Asking} {fault : Net.Fault}
    (broken : asking.sendFault = some fault) (server : Net.SocketAddress) (socket : Socket) :
    socket.exchange server asking =
      (.error (fault.error server),
        { socket with unread := socket.unread ++ asking.arriving }) := by
  rw [exchange, broken]

/-- One exchange reads from the front of what is there. -/
theorem exists_reading (server : Net.SocketAddress) (socket : Socket) (asking : Asking) :
    let ended := socket.exchange server asking
    ∃ portion, socket.unread ++ asking.arriving = portion ++ ended.2.unread ∧
      Reading server asking portion ended.2.unread ended.1 := by
  cases sending : asking.sendFault with
  | none =>
    rw [exchange_of_sent sending]
    obtain ⟨read, front, listening⟩ :=
      listening_listen server asking.id (socket.unread ++ asking.arriving)
    exact ⟨read, front, .sent sending listening⟩
  | some fault =>
    rw [exchange_of_unsent sending]
    exact ⟨[], rfl, .unsent _ fault sending⟩

/-- Without failures, an exchange on a socket is one on the channel, and its query is sent. -/
theorem exchange_eq (server : Net.SocketAddress) (sent waiting arriving : List Bytes)
    (query : Bytes) (id : UInt16) :
    exchange server ⟨sent, waiting.map .ok⟩ { query, id, arriving := arriving.map .ok } =
      let ended := Channel.exchange server id waiting arriving
      (ended.1, ⟨sent ++ [query], ended.2.map .ok⟩) := by
  have heard (datagrams : List Bytes) : listen id (datagrams.map .ok) =
      ((receive id datagrams).1.elim (.error .late) .ok, (receive id datagrams).2.map .ok) := by
    induction datagrams with
    | nil => rfl
    | cons datagram rest ih =>
      rw [List.map_cons, listen, receive]
      by_cases carried : carries id (cut datagram)
      · rw [if_pos carried, if_pos carried]
        rfl
      · rw [if_neg carried, if_neg carried]
        exact ih
  rw [exchange_of_sent rfl, ← List.map_append, heard, Channel.exchange]
  cases receive id (waiting ++ arriving) with
  | mk read left => cases read <;> rfl

/-- Whatever comes to a socket, exchanges on it send their queries in turn, each one once unless the
call fails. They read portions of what comes, one behind the other, so that each datagram is read by
one exchange at most; and the portion of each ends with the first datagram that begins with the
identifier of its query, which it returns, or else with a failed call or at the end of what came
before the deadline. -/
theorem exchanges_read_in_order (server : Net.SocketAddress) (askings : List Asking)
    (socket : Socket) :
    let ran := exchanges server askings socket
    ran.2.sent = socket.sent ++ (askings.filter (·.sendFault.isNone)).map Asking.query ∧
      ∃ portions, Readings server socket.unread askings portions ran.1 ran.2.unread ∧
        socket.unread ++ askings.flatMap Asking.arriving = portions.flatten ++ ran.2.unread := by
  suffices through : let ran := exchanges server askings socket
      ran.2.sent = socket.sent ++ (askings.filter (·.sendFault.isNone)).map Asking.query ∧
        ∃ portions, Readings server socket.unread askings portions ran.1 ran.2.unread by
    obtain ⟨sent, portions, readings⟩ := through
    exact ⟨sent, portions, readings, readings.arrived⟩
  induction askings generalizing socket with
  | nil => exact ⟨(List.append_nil _).symm, [], .none _⟩
  | cons asking rest ih =>
    obtain ⟨portion, front, reading⟩ := exists_reading server socket asking
    obtain ⟨sent, portions, readings⟩ := ih (socket.exchange server asking).2
    refine ⟨?_, portion :: portions, .next front reading readings⟩
    refine Eq.trans sent ?_
    cases sending : asking.sendFault with
    | none =>
      rw [exchange_of_sent sending, List.filter_cons_of_pos (by rw [sending]; rfl), List.map_cons,
        List.append_assoc]
      rfl
    | some fault =>
      rw [exchange_of_unsent sending, List.filter_cons_of_neg (by rw [sending]; exact nofun)]

end Socket

end Channel

/-- What an exchange that asks by datagram returns when it hears something. -/
def Heard.returned (server : Net.SocketAddress) : Heard → Except Error Bytes
  | .gone => .error (.poolClosed (toString server))
  | .datagram bytes => .ok bytes
  | .failed fault => .error (fault.error server)

namespace Pool

variable {C : Type}

/-- What comes of a call that reads, as an event of an exchange with a pool. -/
def arrivalEvent : Channel.Arrival → ExchangeEvent C
  | .ok datagram => .datagram datagram
  | .error fault => .unheard fault

/-- The events of an exchange with a pool that asks on a socket. -/
def askingEvents (socket : Channel.Socket) (asking : Channel.Asking) : List (ExchangeEvent C) :=
  .turn ::
    match asking.sendFault with
    | some fault => [.unheard fault]
    | none => (socket.unread ++ asking.arriving).map arrivalEvent ++ [.unheard .late]

/-- A pool hears on its channel what listening reads there. -/
theorem hear_listen (pool : Pool C) (id : UInt16) (there : List Channel.Arrival) :
    ∃ heard rest, pool.hear id true (there.map arrivalEvent ++ [.unheard .late]) =
      some (heard, rest) ∧
      heard.returned pool.server =
        (Channel.listen id there).1.mapError (Net.Fault.error pool.server) := by
  induction there with
  | nil => exact ⟨.failed .late, [], rfl, rfl⟩
  | cons arrival others ih =>
    rw [List.map_cons, List.cons_append, hear]
    cases arrival with
    | error fault => exact ⟨.failed fault, _, rfl, rfl⟩
    | ok datagram =>
      rw [arrivalEvent, notice, Channel.listen]
      by_cases carried : Channel.carries id (Channel.cut datagram)
      · rw [if_pos carried, if_pos carried]
        exact ⟨.datagram (Channel.cut datagram), _, rfl, rfl⟩
      · rw [if_neg carried, if_neg carried]
        exact ih

/-- An exchange with a pool hears on the channel what an exchange on its socket returns. -/
theorem hear_exchange {pool : Pool C} (opened : pool.channelOpen = true) (socket : Channel.Socket)
    (asking : Channel.Asking) :
    ∃ heard rest, pool.hear asking.id false (askingEvents socket asking) = some (heard, rest) ∧
      heard.returned pool.server = (socket.exchange pool.server asking).1 := by
  have turn (events : List (ExchangeEvent C)) :
      pool.hear asking.id false (.turn :: events) = pool.hear asking.id true events := by
    rw [hear, notice, if_pos opened]
  rw [askingEvents, turn]
  cases sending : asking.sendFault with
  | none =>
    rw [Channel.Socket.exchange_of_sent sending]
    exact hear_listen pool asking.id (socket.unread ++ asking.arriving)
  | some fault =>
    rw [Channel.Socket.exchange_of_unsent sending]
    exact ⟨.failed fault, [], rfl, rfl⟩

end Pool

end DnsForwarder.Resolver
