import DnsForwarder.Message.Decoder
import DnsForwarder.Message.Encoder
import DnsForwarder.Resolver.Channel
import DnsForwarder.Resolver.StreamExchange

/-!
# The pool of a resolver

A pool is the datagram channel to a resolver together with a table of connections. An exchange
writes its query, which may fail, and asks by datagram first. It asks again over a connection if
that fails, or if the answer is cut or is not a message. An answer that came over a connection has
to carry the identifier of the query.

An exchange is a stage that waits for an event; closing a pool is done in three parts. Between any
two of these steps others may go on.
-/

namespace DnsForwarder.Resolver

/-- The channel and the connections to one server. -/
structure Pool (C : Type) where
  server : Net.SocketAddress
  table : Slots C
  /-- Whether the socket of the channel is there. -/
  channelOpen : Bool := true
  closed : Bool := false
deriving DecidableEq

/-- Where an exchange stands. -/
inductive Stage (C : Type) where
  /-- Waits for its turn on the channel. -/
  | queued
  /-- Sent its query and waits for a datagram with its identifier. -/
  | listening
  /-- Asks over a connection. -/
  | streaming (stage : StreamStage C)
  | finished (result : Except Error Message)

/-- What a stage waits for. Reaching the deadline is a failed transfer of kind `timedOut`. -/
inductive ExchangeEvent (C : Type) where
  /-- The channel is free for this exchange, which sends its query. -/
  | turn
  /-- A datagram is read from the channel. -/
  | datagram (bytes : Bytes)
  /-- Sending or reading on the channel fails. -/
  | unheard (fault : Net.Fault)
  | stream (event : StreamEvent C)

namespace Pool

variable {C : Type}

/-- The error of an exchange with a closed pool. -/
def closedError (pool : Pool C) : Error := .poolClosed (toString pool.server)

/-- Sets up a pool. It needs a slot for connections, and an address that can be connected to. -/
def connect (C : Type) (host : Net.Host) (server : Net.SocketAddress) (size : Nat) :
    Except Error (Pool C) :=
  if size = 0 then
    .error (.configuration s!"TCP pool for {server} needs at least one slot")
  else
    match host.connectFault server with
    | some error => .error ((Net.Fault.ofOsError error).error server)
    | none => .ok { server, table := .empty C size }

/-- The answer in a datagram, if it is a whole message. -/
def datagramAnswer? (bytes : Bytes) : Option Message :=
  match Message.decode bytes with
  | .ok message => if message.truncated then none else some message
  | .error _ => none

/-- The answer in a frame, if it is one to a query with the identifier. -/
def frameAnswer (server : Net.SocketAddress) (id : UInt16) (bytes : Bytes) :
    Except Error Message :=
  match Message.decode bytes with
  | .error fault => .error (.invalidMessage fault.message)
  | .ok message =>
    if message.id = id then .ok message
    else
      let received := message.id.toNat
      let sent := id.toNat
      .error (.invalidMessage
        s!"TCP response id {received} does not match query id {sent} from {server}")

/-- What the end of an exchange over a connection means for the query. -/
def conclude (server : Net.SocketAddress) (id : UInt16) : StreamStage C → Stage C
  | .finished (.ok bytes) => .finished (frameAnswer server id bytes)
  | .finished (.error error) => .finished (.error error)
  | stage => .streaming stage

/-- Starts the exchange of a query. It fails at once if the pool is closed, and if the query has too
many octets to be written. -/
def start (pool : Pool C) (query : Message) : Stage C :=
  if pool.closed then .finished (.error pool.closedError)
  else
    match query.encode? with
    | some _ => .queued
    | none => .finished (.error (.invalidMessage Message.tooLong))

/-- An exchange that begins fails at once, or waits for its turn. -/
theorem start_cases (pool : Pool C) (query : Message) :
    pool.closed = true ∧ pool.start query = .finished (.error pool.closedError) ∨
    pool.closed = false ∧ query.encode? = none ∧
      pool.start query = .finished (.error (.invalidMessage Message.tooLong)) ∨
    pool.closed = false ∧ (∃ octets, query.encode? = some octets) ∧ pool.start query = .queued := by
  unfold start
  cases pool.closed with
  | true => exact .inl ⟨rfl, rfl⟩
  | false =>
    cases query.encode? with
    | none => exact .inr (.inl ⟨rfl, rfl, rfl⟩)
    | some octets => exact .inr (.inr ⟨rfl, ⟨octets, rfl⟩, rfl⟩)

/-- Asks over a connection. -/
def fallBack (pool : Pool C) (id : UInt16) : Stage C × Pool C :=
  let (stage, table) := StreamStage.start pool.server pool.table
  (conclude pool.server id stage, { pool with table })

/-- Goes on with an event. An event that the stage does not wait for changes nothing. -/
def step (pool : Pool C) (id : UInt16) (stage : Stage C) (event : ExchangeEvent C) :
    Stage C × Pool C :=
  match stage, event with
  | .queued, .turn =>
    if pool.channelOpen then (.listening, pool) else (.finished (.error pool.closedError), pool)
  | .listening, .datagram bytes =>
    let read := Channel.cut bytes
    if Channel.carries id read then
      match datagramAnswer? read with
      | some message => (.finished (.ok message), pool)
      | none => pool.fallBack id
    else (.listening, pool)
  | .listening, .unheard _ => pool.fallBack id
  | .streaming stage, .stream event =>
    let (stage, table) := stage.step pool.server pool.table event
    (conclude pool.server id stage, { pool with table })
  | stage, _ => (stage, pool)

/-- Gives up an exchange. -/
def drop (pool : Pool C) : Stage C → Pool C
  | .streaming stage => { pool with table := stage.drop pool.table }
  | _ => pool

/-- The first part of closing: exchanges no longer start. -/
def markClosed (pool : Pool C) : Pool C := { pool with closed := true }

/-- The second part: connections are dropped. -/
def closeTable (pool : Pool C) : Pool C := { pool with table := pool.table.close }

/-- The last part, which waits for a turn on the channel: the socket is dropped. -/
def closeChannel (pool : Pool C) : Pool C := { pool with channelOpen := false }

/-- Closes a pool on which nothing goes on. A closed pool stays as it is. -/
def close (pool : Pool C) : Pool C :=
  if pool.closed then pool else pool.markClosed.closeTable.closeChannel

/-- Goes on with events one after the other. -/
def advance (id : UInt16) (events : List (ExchangeEvent C)) (state : Stage C × Pool C) :
    Stage C × Pool C :=
  events.foldl (fun (stage, pool) event => pool.step id stage event) state

/-- Events go on from where earlier ones led. -/
theorem advance_append (id : UInt16) (first second : List (ExchangeEvent C))
    (state : Stage C × Pool C) :
    advance id (first ++ second) state = advance id second (advance id first state) :=
  List.foldl_append

/-- An exchange that is over stays as it is. -/
theorem advance_finished (id : UInt16) (events : List (ExchangeEvent C)) (pool : Pool C)
    (result : Except Error Message) :
    advance id events (.finished result, pool) = (.finished result, pool) := by
  induction events with
  | nil => rfl
  | cons event rest ih => cases event <;> exact ih

/-- Runs one exchange alone, with the events that come. -/
def exchange (pool : Pool C) (query : Message) (events : List (ExchangeEvent C)) :
    Stage C × Pool C :=
  advance query.id events (pool.start query, pool)

/-- The events of an exchange that hears of nothing in time. -/
def lateEvents : List (ExchangeEvent C) :=
  [.turn, .unheard .late, .stream (.answered (.error .late)),
    .stream (.connected (.error .late))]

/-- An exchange goes on from where earlier events led. -/
theorem exchange_append (pool : Pool C) (query : Message) (first second : List (ExchangeEvent C)) :
    pool.exchange query (first ++ second) = advance query.id second (pool.exchange query first) :=
  List.foldl_append

/-- An exchange over a connection is over when nothing more comes in time. -/
theorem advance_late_stream (id : UInt16) (stage : StreamStage C) (pool : Pool C) :
    ∃ result after,
      advance id [.stream (.answered (.error .late)), .stream (.connected (.error .late))]
      (conclude pool.server id stage, pool) = (.finished result, after) := by
  cases stage with
  | finished result => cases result <;> exact ⟨_, _, advance_finished id _ pool _⟩
  | pooled slot connection => exact ⟨_, _, rfl⟩
  | dialing slot => exact ⟨_, _, rfl⟩
  | fresh slot connection => exact ⟨_, _, rfl⟩

/-- An exchange is over when nothing more comes in time. -/
theorem advance_lateEvents (id : UInt16) (stage : Stage C) (pool : Pool C) :
    ∃ result after, advance id lateEvents (stage, pool) = (.finished result, after) := by
  have fallen := advance_late_stream id (StreamStage.start pool.server pool.table).1
    { pool with table := (StreamStage.start pool.server pool.table).2 }
  cases stage with
  | finished result => exact ⟨_, _, advance_finished id _ pool _⟩
  | streaming stage =>
    cases stage with
    | finished result => cases result <;> exact ⟨_, _, rfl⟩
    | pooled slot connection => exact ⟨_, _, rfl⟩
    | dialing slot => exact ⟨_, _, rfl⟩
    | fresh slot connection => exact ⟨_, _, rfl⟩
  | listening => exact fallen
  | queued =>
    have turn : pool.step id .queued .turn =
        if pool.channelOpen then (.listening, pool)
        else (.finished (.error pool.closedError), pool) := rfl
    change ∃ result after, advance id lateEvents.tail (pool.step id .queued .turn) =
      (.finished result, after)
    rw [turn]
    split
    · exact fallen
    · exact ⟨_, _, advance_finished id _ pool _⟩

/-- Runs one exchange alone and to its end, which comes with the deadline if it does not come with
the events. -/
def complete (pool : Pool C) (query : Message) (events : List (ExchangeEvent C)) :
    Except Error Message × Pool C :=
  match pool.exchange query (events ++ lateEvents) with
  | (.finished result, pool) => (result, pool)
  | (_, pool) => (.error (.timeout (toString pool.server)), pool)

/-- A whole exchange ends with its result. -/
theorem exchange_append_lateEvents (pool : Pool C) (query : Message)
    (events : List (ExchangeEvent C)) :
    pool.exchange query (events ++ lateEvents) =
      (.finished (pool.complete query events).1, (pool.complete query events).2) := by
  obtain ⟨result, after, late⟩ :=
    advance_lateEvents query.id (pool.exchange query events).1 (pool.exchange query events).2
  have ended : pool.exchange query (events ++ lateEvents) = (.finished result, after) := by
    rw [exchange, advance_append]
    exact late
  rw [complete, ended]

end Pool

end DnsForwarder.Resolver
