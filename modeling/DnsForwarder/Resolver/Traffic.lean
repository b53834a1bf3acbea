import DnsForwarder.Resolver.Pool

/-!
# Traffic on a pool

Many exchanges can be on their way on one pool, and it can be closed meanwhile. What happens is a
list of moves, each one step of an exchange or one part of closing, in any order that the channel
allows: it has room for one exchange at a time, and the last part of closing waits for that one.
-/

namespace DnsForwarder.Resolver

/-- An exchange among others. -/
structure Flight (C : Type) where
  /-- The identifier of the query. -/
  id : UInt16
  /-- None once the exchange was given up. -/
  stage : Option (Stage C)

/-- A pool with its exchanges in the order in which they started. -/
structure Traffic (C : Type) where
  pool : Pool C
  flights : List (Flight C) := []

/-- The parts of closing. -/
inductive ClosePart where
  /-- Exchanges no longer start. -/
  | mark
  /-- Connections are dropped. -/
  | connections
  /-- The socket of the channel is dropped. -/
  | channel
deriving DecidableEq, Repr

/-- A step in the traffic. -/
inductive Move (C : Type) where
  /-- The exchange of a query begins. -/
  | start (query : Message)
  | advance (index : Nat) (event : ExchangeEvent C)
  /-- An exchange is given up. -/
  | abandon (index : Nat)
  | close (part : ClosePart)

namespace StreamStage

variable {C : Type}

/-- Whether a stage waits for an event. -/
def awaits : StreamStage C → StreamEvent C → Bool
  | .pooled .., .answered _ => true
  | .fresh .., .answered _ => true
  | .dialing _, .connected _ => true
  | _, _ => false

end StreamStage

namespace Stage

variable {C : Type}

/-- Whether an exchange is over. -/
def isFinished : Stage C → Bool
  | .finished _ => true
  | _ => false

/-- Whether an exchange has the channel. -/
def hasChannel : Stage C → Bool
  | .listening => true
  | _ => false

/-- Whether a stage waits for an event. -/
def awaits : Stage C → ExchangeEvent C → Bool
  | .queued, .turn => true
  | .listening, .datagram _ => true
  | .listening, .unheard _ => true
  | .streaming stage, .stream event => stage.awaits event
  | _, _ => false

end Stage

namespace Traffic

variable {C : Type}

/-- Whether no exchange has the channel. -/
def channelFree (traffic : Traffic C) : Bool :=
  traffic.flights.all fun flight => !(flight.stage.any Stage.hasChannel)

/-- Whether an event can come to a stage now. -/
def permits (traffic : Traffic C) (stage : Stage C) (event : ExchangeEvent C) : Bool :=
  stage.awaits event &&
    match event with
    | .turn => traffic.channelFree
    | _ => true

/-- Puts an exchange into a stage. -/
def place (traffic : Traffic C) (index : Nat) (stage : Option (Stage C)) (pool : Pool C) :
    Traffic C where
  pool
  flights := traffic.flights.modify index fun flight => { flight with stage }

/-- Makes a move; none if it is not possible. -/
def move? (traffic : Traffic C) : Move C → Option (Traffic C)
  | .start query =>
    some { traffic with
      flights := traffic.flights ++ [⟨query.id, some (traffic.pool.start query)⟩] }
  | .advance index event =>
    match traffic.flights[index]? with
    | some ⟨id, some stage⟩ =>
      if traffic.permits stage event then
        let (stage, pool) := traffic.pool.step id stage event
        some (traffic.place index (some stage) pool)
      else none
    | _ => none
  | .abandon index =>
    match traffic.flights[index]? with
    | some ⟨_, some stage⟩ =>
      if stage.isFinished then none
      else some (traffic.place index none (traffic.pool.drop stage))
    | _ => none
  | .close .mark => some { traffic with pool := traffic.pool.markClosed }
  | .close .connections =>
    if traffic.pool.closed then some { traffic with pool := traffic.pool.closeTable } else none
  | .close .channel =>
    if traffic.pool.table.closed && traffic.channelFree then
      some { traffic with pool := traffic.pool.closeChannel }
    else none

/-- Makes moves one after the other. -/
def run? (traffic : Traffic C) (moves : List (Move C)) : Option (Traffic C) :=
  moves.foldlM move? traffic

/-- Moves go on from where earlier ones led. -/
theorem run?_append (traffic : Traffic C) (first second : List (Move C)) :
    traffic.run? (first ++ second) = (traffic.run? first).bind (·.run? second) :=
  List.foldlM_append

end Traffic

end DnsForwarder.Resolver
