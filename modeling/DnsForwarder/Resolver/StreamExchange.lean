import DnsForwarder.Bytes
import DnsForwarder.Net.Host
import DnsForwarder.Resolver.Slots

/-!
# Exchanges on a connection

An exchange over TCP reserves a slot. If the slot holds an idle connection, the query goes out on
that; if there is none, or it fails, a fresh connection is made and the query goes out on it. A
connection that carried an answer goes back into its slot, any other is dropped.

An exchange is a stage that waits for an event. It may be dropped at any stage, which frees its
slot.
-/

namespace DnsForwarder.Resolver

/-- Where an exchange on a connection stands. -/
inductive StreamStage (C : Type) where
  /-- Waits for an answer on the connection that was idle in its slot. -/
  | pooled (reservation : Reservation C) (connection : C)
  /-- Waits for a fresh connection. -/
  | dialing (reservation : Reservation C)
  /-- Waits for an answer on a fresh connection. -/
  | fresh (reservation : Reservation C) (connection : C)
  | finished (result : Except Error Bytes)

/-- What a stage waits for. Reaching the deadline is a failed transfer of kind `timedOut`. -/
inductive StreamEvent (C : Type) where
  /-- The query was written and an answer read, or that failed. -/
  | answered (result : Except Net.Fault Bytes)
  /-- A connection was made, or that failed. -/
  | connected (result : Except Net.Fault C)

namespace StreamStage

variable {C : Type}

/-- Why a reservation fails. -/
def refusal (server : Net.SocketAddress) : Refusal → Error
  | .closed => .poolClosed (toString server)
  | .exhausted => .poolExhausted (toString server)

/-- Reserves a slot, and moves its connection out of the reservation. -/
def start (server : Net.SocketAddress) (table : Slots C) : StreamStage C × Slots C :=
  match table.reserve with
  | (.error reason, table) => (.finished (.error (refusal server reason)), table)
  | (.ok reservation, table) =>
    match reservation.connection with
    | some connection => (.pooled { reservation with connection := none } connection, table)
    | none => (.dialing reservation, table)

/-- Goes on with an event. An event that the stage does not wait for changes nothing. -/
def step (server : Net.SocketAddress) (stage : StreamStage C) (table : Slots C) :
    StreamEvent C → StreamStage C × Slots C
  | .answered result =>
    match stage, result with
    | .pooled reservation connection, .ok bytes =>
      (.finished (.ok bytes), reservation.release connection table)
    | .pooled reservation _, .error _ => (.dialing reservation, table)
    | .fresh reservation connection, .ok bytes =>
      (.finished (.ok bytes), reservation.release connection table)
    | .fresh reservation _, .error fault =>
      (.finished (.error (fault.error server)), reservation.drop table)
    | stage, _ => (stage, table)
  | .connected result =>
    match stage, result with
    | .dialing reservation, .ok connection => (.fresh reservation connection, table)
    | .dialing reservation, .error fault =>
      (.finished (.error (fault.error server)), reservation.drop table)
    | stage, _ => (stage, table)

/-- The reservation that an exchange holds. -/
def reservation? : StreamStage C → Option (Reservation C)
  | .pooled reservation _ => some reservation
  | .dialing reservation => some reservation
  | .fresh reservation _ => some reservation
  | .finished _ => none

/-- The connection that an exchange works with. -/
def connection? : StreamStage C → Option C
  | .pooled _ connection => some connection
  | .dialing _ => none
  | .fresh _ connection => some connection
  | .finished _ => none

/-- Gives up an exchange. -/
def drop (stage : StreamStage C) (table : Slots C) : Slots C :=
  match stage.reservation? with
  | some reservation => reservation.drop table
  | none => table

end StreamStage

end DnsForwarder.Resolver
