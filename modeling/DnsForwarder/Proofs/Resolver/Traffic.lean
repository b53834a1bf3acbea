import DnsForwarder.Proofs.Resolver.SharedSlots
import DnsForwarder.Resolver.Traffic

/-!
# Exchanges among others

Whatever moves are made in the traffic on a pool, the table of the pool agrees with the exchanges
that are on their way (`DnsForwarder.Resolver.Traffic.agrees_of_run`): each that asks over a
connection has a slot for itself, and no connection is in two places, as they come from those that
were dialed.
-/

namespace DnsForwarder.Resolver

variable {C : Type}

namespace Stage

/-- The reservation that an exchange holds. -/
def reservation? : Stage C → Option (Reservation C)
  | .streaming stage => stage.reservation?
  | _ => none

/-- The connection that an exchange works with. -/
def connection? : Stage C → Option C
  | .streaming stage => stage.connection?
  | _ => none

end Stage

/-- The connection that comes with an event. -/
def ExchangeEvent.dialed? : ExchangeEvent C → Option C
  | .stream event => event.dialed?
  | _ => none

/-- The connection that is dialed in a move. -/
def Move.dialed? : Move C → Option C
  | .advance _ event => event.dialed?
  | _ => none

namespace Flight

/-- The reservation of an exchange that goes on. -/
def reservation? (flight : Flight C) : Option (Reservation C) :=
  flight.stage.bind Stage.reservation?

/-- The connection of an exchange that goes on. -/
def connection? (flight : Flight C) : Option C := flight.stage.bind Stage.connection?

end Flight

namespace Pool

/-- An exchange on a connection has the reservation of that connection. -/
theorem reservation?_conclude (server : Net.SocketAddress) (id : UInt16) (stage : StreamStage C) :
    (conclude server id stage).reservation? = stage.reservation? := by
  cases stage with
  | finished result => cases result <;> rfl
  | pooled reservation connection => rfl
  | dialing reservation => rfl
  | fresh reservation connection => rfl

/-- An exchange on a connection has that connection. -/
theorem connection?_conclude (server : Net.SocketAddress) (id : UInt16) (stage : StreamStage C) :
    (conclude server id stage).connection? = stage.connection? := by
  cases stage with
  | finished result => cases result <;> rfl
  | pooled reservation connection => rfl
  | dialing reservation => rfl
  | fresh reservation connection => rfl

end Pool

namespace Slots.Agrees

variable {size : Nat} {dialed carried : List C} {held : List (Reservation C)} {pool : Pool C}

/-- Falling back to a connection takes a slot, if there is one, and keeps the table in agreement. -/
theorem fallBack (agrees : pool.table.Agrees size dialed held carried) (id : UInt16) :
    let fallen := pool.fallBack id
    fallen.2.table.Agrees size dialed (fallen.1.reservation?.toList ++ held)
      (fallen.1.connection?.toList ++ carried) := by
  dsimp only [Pool.fallBack]
  rw [Pool.reservation?_conclude, Pool.connection?_conclude]
  rcases StreamStage.start_cases pool.table pool.server with
    ⟨reason, -, refused⟩ | ⟨reservation, taken, holds, carries⟩
  · rw [refused]
    exact agrees
  · rw [holds, carries]
    exact agrees.reserve taken

/-- One exchange goes on with an event, whatever the others hold and work with. -/
theorem step {stage : Stage C}
    (agrees : pool.table.Agrees size dialed (stage.reservation?.toList ++ held)
      (stage.connection?.toList ++ carried)) (id : UInt16) (event : ExchangeEvent C) :
    let stepped := pool.step id stage event
    stepped.2.table.Agrees size (event.dialed?.toList ++ dialed)
      (stepped.1.reservation?.toList ++ held) (stepped.1.connection?.toList ++ carried) := by
  intro stepped
  have ignored : pool.table.Agrees size (event.dialed?.toList ++ dialed)
      (stage.reservation?.toList ++ held) (stage.connection?.toList ++ carried) :=
    (agrees.dial _).mono (.refl _) (List.sublist_append_right _ _).subperm
  unfold stepped Pool.step
  split
  · split <;> exact ignored
  · dsimp only
    split
    · split
      · exact ignored
      · exact agrees.fallBack id
    · exact ignored
  · exact agrees.fallBack id
  next stage event =>
    dsimp only
    rw [Pool.reservation?_conclude, Pool.connection?_conclude]
    exact agrees.effect (stage.effect_step pool.table agrees.unreleased pool.server event)
  · exact ignored

/-- To drop an exchange gives its slot back and keeps the table in agreement. -/
theorem drop {stage : Stage C}
    (agrees : pool.table.Agrees size dialed (stage.reservation?.toList ++ held)
      (stage.connection?.toList ++ carried)) :
    (pool.drop stage).table.Agrees size dialed held carried := by
  cases stage with
  | streaming stage =>
    exact agrees.effect (stage.effect_drop pool.table agrees.unreleased)
  | queued => exact agrees
  | listening => exact agrees
  | finished result => exact agrees

end Slots.Agrees

namespace Traffic

/-- A pool that was just set up, without exchanges. -/
def fresh (server : Net.SocketAddress) (size : Nat) : Traffic C :=
  { pool := { server, table := .empty C size } }

/-- The reservations that are outstanding. -/
def held (traffic : Traffic C) : List (Reservation C) :=
  traffic.flights.filterMap Flight.reservation?

/-- The connections that exchanges work with. -/
def carried (traffic : Traffic C) : List C := traffic.flights.filterMap Flight.connection?

/-- The connections that are stored or that exchanges work with. -/
def connections (traffic : Traffic C) : List C := traffic.pool.table.stored ++ traffic.carried

/-- The table agrees with the exchanges. -/
def Agrees (size : Nat) (dialed : List C) (traffic : Traffic C) : Prop :=
  traffic.pool.table.Agrees size dialed traffic.held traffic.carried

variable {size : Nat} {dialed : List C} {traffic after : Traffic C} {index : Nat} {id : UInt16}
  {stage : Option (Stage C)}

/-- When one exchange goes on the others stay as they are. -/
theorem flights_place (present : traffic.flights[index]? = some ⟨id, stage⟩)
    (next : Option (Stage C))
    (pool : Pool C) :
    (traffic.place index next pool).flights = traffic.flights.set index ⟨id, next⟩ := by
  change traffic.flights.modify index _ = _
  rw [List.modify_eq_set_getElem?, present]
  rfl

/-- The table agrees with one exchange and the others. -/
theorem Agrees.apart (agrees : Agrees size dialed traffic)
    (present : traffic.flights[index]? = some ⟨id, stage⟩) :
    traffic.pool.table.Agrees size dialed
      ((stage.bind Stage.reservation?).toList ++
        (traffic.flights.eraseIdx index).filterMap Flight.reservation?)
      ((stage.bind Stage.connection?).toList ++
        (traffic.flights.eraseIdx index).filterMap Flight.connection?) :=
  Slots.Agrees.mono agrees (perm_filterMap_eraseIdx Flight.reservation? present).symm
    (perm_filterMap_eraseIdx Flight.connection? present).symm.subperm

/-- When one exchange goes on in agreement with the others, all do. -/
theorem Agrees.place {pool : Pool C} {next : Option (Stage C)}
    (present : traffic.flights[index]? = some ⟨id, stage⟩)
    (agrees : pool.table.Agrees size dialed
      ((next.bind Stage.reservation?).toList ++
        (traffic.flights.eraseIdx index).filterMap Flight.reservation?)
      ((next.bind Stage.connection?).toList ++
        (traffic.flights.eraseIdx index).filterMap Flight.connection?)) :
    Agrees size dialed (traffic.place index next pool) := by
  have held := perm_filterMap_set Flight.reservation? present ⟨id, next⟩
  have carried := perm_filterMap_set Flight.connection? present ⟨id, next⟩
  rw [← flights_place present next pool] at held carried
  exact agrees.mono held carried.subperm

/-- What happens when an exchange goes on in the traffic. -/
theorem move?_advance {event : ExchangeEvent C}
    (moved : traffic.move? (.advance index event) = some after) :
    ∃ id stage, traffic.flights[index]? = some ⟨id, some stage⟩ ∧ stage.awaits event = true ∧
      after = traffic.place index (some (traffic.pool.step id stage event).1)
        (traffic.pool.step id stage event).2 := by
  rw [move?] at moved
  split at moved
  next id stage present =>
    split at moved
    next permitted =>
      have awaited := (Bool.and_eq_true_iff.mp permitted).1
      exact ⟨id, stage, present, awaited, (Option.some.inj moved).symm⟩
    · exact nomatch moved
  · exact nomatch moved

/-- What happens when an exchange is given up. -/
theorem move?_abandon (moved : traffic.move? (.abandon index) = some after) :
    ∃ id stage, traffic.flights[index]? = some ⟨id, some stage⟩ ∧ stage.isFinished = false ∧
      after = traffic.place index none (traffic.pool.drop stage) := by
  rw [move?] at moved
  split at moved
  next id stage present =>
    split at moved
    · exact nomatch moved
    next going =>
      exact ⟨id, stage, present, Bool.eq_false_iff.mpr going, (Option.some.inj moved).symm⟩
  · exact nomatch moved

/-- The connections are closed after the pool is marked closed. -/
theorem move?_close_connections (moved : traffic.move? (.close .connections) = some after) :
    traffic.pool.closed = true ∧ after = { traffic with pool := traffic.pool.closeTable } := by
  rw [move?] at moved
  split at moved
  next marked => exact ⟨marked, (Option.some.inj moved).symm⟩
  · exact nomatch moved

/-- The channel is closed after the connections, when no exchange has it. -/
theorem move?_close_channel (moved : traffic.move? (.close .channel) = some after) :
    traffic.pool.table.closed = true ∧ traffic.channelFree = true ∧
      after = { traffic with pool := traffic.pool.closeChannel } := by
  rw [move?] at moved
  split at moved
  next ready =>
    obtain ⟨shut, free⟩ := Bool.and_eq_true_iff.mp ready
    exact ⟨shut, free, (Option.some.inj moved).symm⟩
  · exact nomatch moved

/-- Every move keeps the table in agreement with the exchanges. A start takes no slot yet, a step
may take one or give it back, and a drop gives it back, while the other exchanges hold what they
held. -/
theorem Agrees.move (agrees : Agrees size dialed traffic) {next : Move C}
    (moved : traffic.move? next = some after) :
    Agrees size (next.dialed?.toList ++ dialed) after := by
  cases next with
  | start query =>
    obtain rfl := Option.some.inj moved
    have idle : (traffic.pool.start query).reservation? = none ∧
        (traffic.pool.start query).connection? = none := by
      rcases traffic.pool.start_cases query with ⟨-, begun⟩ | ⟨-, -, begun⟩ | ⟨-, -, begun⟩ <;>
        rw [begun] <;> exact ⟨rfl, rfl⟩
    have held := perm_filterMap_concat Flight.reservation? traffic.flights
      ⟨query.id, some (traffic.pool.start query)⟩
    have carried := perm_filterMap_concat Flight.connection? traffic.flights
      ⟨query.id, some (traffic.pool.start query)⟩
    rw [Flight.reservation?, Option.bind_some, idle.1] at held
    rw [Flight.connection?, Option.bind_some, idle.2] at carried
    exact Slots.Agrees.mono agrees held carried.subperm
  | advance index event =>
    obtain ⟨id, stage, present, -, rfl⟩ := move?_advance moved
    exact .place present ((agrees.apart present).step id event)
  | abandon index =>
    obtain ⟨id, stage, present, -, rfl⟩ := move?_abandon moved
    exact .place present (agrees.apart present).drop
  | close part =>
    cases part with
    | mark =>
      obtain rfl := Option.some.inj moved
      exact agrees
    | connections =>
      obtain ⟨-, rfl⟩ := move?_close_connections moved
      exact Slots.Agrees.close agrees
    | channel =>
      obtain ⟨-, -, rfl⟩ := move?_close_channel moved
      exact agrees

/-- A run makes its first move, and then the others. -/
theorem run?_cons (traffic : Traffic C) (next : Move C) (rest : List (Move C)) :
    traffic.run? (next :: rest) = (traffic.move? next).bind (·.run? rest) :=
  List.foldlM_cons

/-- A run makes its last move after the others. -/
theorem run?_concat (traffic : Traffic C) (moves : List (Move C)) (last : Move C) :
    traffic.run? (moves ++ [last]) = (traffic.run? moves).bind (·.move? last) := by
  rw [run?_append]
  exact congrArg _ (funext fun _ => bind_pure _)

/-- Moves keep the table in agreement. -/
theorem Agrees.run (agrees : Agrees size dialed traffic) {moves : List (Move C)}
    (ran : traffic.run? moves = some after) :
    Agrees size (moves.reverse.filterMap Move.dialed? ++ dialed) after := by
  induction moves using List.reverseRecOn generalizing after with
  | nil =>
    obtain rfl := Option.some.inj ran
    exact agrees
  | append_singleton moves last ih =>
    obtain ⟨before, earlier, moved⟩ := Option.bind_eq_some_iff.mp ((run?_concat ..).symm.trans ran)
    rw [List.reverse_concat, filterMap_cons_toList, List.append_assoc]
    exact (ih earlier).move moved

/-- A connection that is there after some moves was dialed in them or was there before. -/
theorem Agrees.dialed_of_run (agrees : Agrees size dialed traffic) {moves : List (Move C)}
    (ran : traffic.run? moves = some after) {connection : C}
    (there : connection ∈ after.connections) :
    connection ∈ moves.filterMap Move.dialed? ∨ connection ∈ traffic.connections := by
  have tight : Agrees size traffic.connections traffic :=
    { agrees with connections := List.Subperm.refl _ }
  have found := (tight.run ran).connections.subset there
  rw [List.filterMap_reverse, List.mem_append, List.mem_reverse] at found
  exact found

/-- From a fresh pool on, the table agrees with the exchanges and the connections that were
dialed. -/
theorem agrees_of_run {server : Net.SocketAddress} {moves : List (Move C)}
    (ran : (fresh server size).run? moves = some after) :
    Agrees size (moves.filterMap Move.dialed?) after := by
  have start : Agrees size [] (fresh server size : Traffic C) := Slots.Agrees.start C size
  have agrees := start.run ran
  rw [List.append_nil] at agrees
  have same := (List.reverse_perm moves).filterMap Move.dialed?
  exact { agrees with connections := agrees.connections.trans same.subperm }

end Traffic

end DnsForwarder.Resolver
