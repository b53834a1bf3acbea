import DnsForwarder.Proofs.Resolver.Traffic
import Mathlib.Data.List.Perm.Subperm

/-!
# What stays so in the traffic on a pool

Moves may come in any order, but some things are not undone
(`DnsForwarder.Resolver.Traffic.Onward`). What was closed stays closed, an exchange that is over
stays as it is, one that starts on a closed pool is refused at once, and with a closed table slots
are held only by those that held them before.
-/

namespace DnsForwarder.Resolver

variable {C : Type}

/-- To drop a reservation neither closes the table nor opens it. -/
theorem Reservation.closed_drop (reservation : Reservation C) (table : Slots C) :
    (reservation.drop table).closed = table.closed := by
  unfold drop
  split <;> rfl

/-- A step of an exchange neither closes the table nor opens it. -/
theorem StreamStage.closed_step (stage : StreamStage C) (table : Slots C)
    (server : Net.SocketAddress) (event : StreamEvent C) :
    (stage.step server table event).2.closed = table.closed := by
  cases event with
  | answered result =>
    cases stage with
    | pooled reservation connection => cases result <;> rfl
    | dialing reservation => rfl
    | fresh reservation connection =>
      cases result with
      | ok bytes => rfl
      | error fault => exact reservation.closed_drop table
    | finished read => rfl
  | connected result =>
    cases stage with
    | dialing reservation =>
      cases result with
      | ok connection => rfl
      | error fault => exact reservation.closed_drop table
    | _ => rfl

/-- To drop an exchange neither closes the table nor opens it. -/
theorem StreamStage.closed_drop (stage : StreamStage C) (table : Slots C) :
    (stage.drop table).closed = table.closed := by
  unfold drop
  split
  next reservation _ => exact reservation.closed_drop table
  · rfl

/-- The start of an exchange neither closes the table nor opens it. -/
theorem StreamStage.closed_start (server : Net.SocketAddress) (table : Slots C) :
    (start server table).2.closed = table.closed := by
  rcases start_cases table server with ⟨reason, -, refused⟩ | ⟨reservation, taken, -, -⟩
  · rw [refused]
  · exact (Slots.reserve_ok taken).1.closed

/-- An exchange goes on to hold its slot, or holds none any more. -/
theorem StreamStage.reservation?_step (stage : StreamStage C) (table : Slots C)
    (server : Net.SocketAddress) (event : StreamEvent C) :
    (stage.step server table event).1.reservation? = stage.reservation? ∨
      (stage.step server table event).1.reservation? = none := by
  cases event with
  | answered result =>
    cases stage with
    | pooled reservation connection =>
      cases result with
      | ok bytes => exact .inr rfl
      | error fault => exact .inl rfl
    | fresh reservation connection =>
      right
      cases result <;> rfl
    | dialing reservation => exact .inl rfl
    | finished read => exact .inl rfl
  | connected result =>
    cases stage with
    | dialing reservation =>
      cases result with
      | ok connection => exact .inl rfl
      | error fault => exact .inr rfl
    | _ => exact .inl rfl

/-- An exchange that is over waits for nothing. -/
theorem Stage.isFinished_of_awaits {stage : Stage C} {event : ExchangeEvent C}
    (awaited : stage.awaits event = true) : stage.isFinished = false := by
  cases stage with
  | finished result => cases event <;> exact nomatch awaited
  | _ => rfl

namespace Pool

/-- The parts of a pool that only closing changes are the same. -/
structure Alike (before after : Pool C) : Prop where
  server : after.server = before.server
  closed : after.closed = before.closed
  channelOpen : after.channelOpen = before.channelOpen
  tableClosed : after.table.closed = before.table.closed

/-- Falling back to a connection changes nothing that only closing changes. -/
theorem alike_fallBack (pool : Pool C) (id : UInt16) : pool.Alike (pool.fallBack id).2 :=
  ⟨rfl, rfl, rfl, StreamStage.closed_start pool.server pool.table⟩

/-- A step of an exchange changes nothing that only closing changes. -/
theorem alike_step (pool : Pool C) (id : UInt16) (stage : Stage C) (event : ExchangeEvent C) :
    pool.Alike (pool.step id stage event).2 := by
  have same : pool.Alike pool := ⟨rfl, rfl, rfl, rfl⟩
  unfold step
  split
  · split <;> exact same
  · dsimp only
    split
    · split
      · exact same
      · exact pool.alike_fallBack id
    · exact same
  · exact pool.alike_fallBack id
  next stage event =>
    exact ⟨rfl, rfl, rfl, stage.closed_step pool.table pool.server event⟩
  · exact same

/-- To drop an exchange changes nothing that only closing changes. -/
theorem alike_drop (pool : Pool C) (stage : Stage C) : pool.Alike (pool.drop stage) := by
  cases stage with
  | streaming stage => exact ⟨rfl, rfl, rfl, stage.closed_drop pool.table⟩
  | _ => exact ⟨rfl, rfl, rfl, rfl⟩

/-- With a closed table an exchange takes no slot. -/
theorem reservation?_step {pool : Pool C} (shut : pool.table.closed = true) (id : UInt16)
    (stage : Stage C) (event : ExchangeEvent C) :
    (pool.step id stage event).1.reservation? = stage.reservation? ∨
      (pool.step id stage event).1.reservation? = none := by
  have refused : (pool.fallBack id).1.reservation? = none := by
    change (conclude pool.server id (StreamStage.start pool.server pool.table).1).reservation? =
      none
    rw [reservation?_conclude]
    have closed := (StreamStage.start_refused pool.table pool.server .closed).mpr
      (pool.table.reserve_closed.mpr shut)
    rw [closed]
    rfl
  unfold step
  split
  · split <;> exact .inr rfl
  · dsimp only
    split
    · split
      · exact .inr rfl
      · exact .inr refused
    · exact .inr rfl
  · exact .inr refused
  next stage event =>
    dsimp only
    rw [reservation?_conclude]
    exact stage.reservation?_step pool.table pool.server event
  · exact .inl rfl

end Pool

namespace Traffic

variable {size : Nat} {traffic before middle after : Traffic C}

/-- The reservation that the exchange at a place holds. -/
def reservationAt? (traffic : Traffic C) (index : Nat) : Option (Reservation C) :=
  traffic.flights[index]?.bind Flight.reservation?

/-- A reservation that is held is held by some exchange. -/
theorem reservationAt?_of_mem {reservation : Reservation C} (holds : reservation ∈ traffic.held) :
    ∃ index, traffic.reservationAt? index = some reservation := by
  obtain ⟨flight, member, own⟩ := List.mem_filterMap.mp holds
  obtain ⟨index, present⟩ := List.mem_iff_getElem?.mp member
  exact ⟨index, Option.bind_eq_some_iff.mpr ⟨flight, present, own⟩⟩

/-- A reservation of an exchange is held. -/
theorem mem_held_of_reservationAt? {index : Nat} {reservation : Reservation C}
    (there : traffic.reservationAt? index = some reservation) : reservation ∈ traffic.held := by
  obtain ⟨flight, present, own⟩ := Option.bind_eq_some_iff.mp there
  exact List.mem_filterMap.mpr ⟨flight, List.mem_of_getElem? present, own⟩

/-- What is so at all later times. -/
structure Onward (before after : Traffic C) : Prop where
  server : after.pool.server = before.pool.server
  closed : before.pool.closed = true → after.pool.closed = true
  tableClosed : before.pool.table.closed = true → after.pool.table.closed = true
  size : before.flights.length ≤ after.flights.length
  /-- An exchange that is over stays as it is. -/
  ended : ∀ (index : Nat) (id : UInt16) (result : Except Error Message),
    before.flights[index]? = some ⟨id, some (.finished result)⟩ →
      after.flights[index]? = some ⟨id, some (.finished result)⟩
  /-- An exchange that started on a closed pool was refused. -/
  refused : before.pool.closed = true → ∀ (index : Nat) (flight : Flight C),
    before.flights.length ≤ index → after.flights[index]? = some flight →
      flight.stage = some (.finished (.error before.pool.closedError))
  /-- With a closed table slots are held only by those that held them before. -/
  held : before.pool.table.closed = true → ∀ (index : Nat) (reservation : Reservation C),
    after.reservationAt? index = some reservation → before.reservationAt? index = some reservation

/-- What is so now is so at once. -/
theorem Onward.refl (traffic : Traffic C) : Onward traffic traffic where
  server := rfl
  closed := id
  tableClosed := id
  size := Nat.le_refl _
  ended _ _ _ := id
  refused _ index flight beyond present := by
    rw [List.getElem?_eq_none beyond] at present
    exact nomatch present
  held _ _ _ := id

/-- What stays so for a while, and stays so again, stays so. -/
theorem Onward.trans (first : Onward before middle) (second : Onward middle after) :
    Onward before after where
  server := second.server.trans first.server
  closed shut := second.closed (first.closed shut)
  tableClosed shut := second.tableClosed (first.tableClosed shut)
  size := Nat.le_trans first.size second.size
  ended index id result ended := second.ended index id result (first.ended index id result ended)
  refused shut index flight beyond present := by
    -- One that was refused early is over, and stays so; one that starts later finds the pool closed
    -- as well.
    by_cases early : index < middle.flights.length
    · have there := List.getElem?_eq_getElem early
      have ended := first.refused shut index _ beyond there
      generalize middle.flights[index] = old at there ended
      obtain ⟨id, stage⟩ := old
      obtain rfl : stage = _ := ended
      have kept := second.ended index id _ there
      obtain rfl := Option.some.inj (present.symm.trans kept)
      rfl
    · have same : middle.pool.closedError = before.pool.closedError := by
        rw [Pool.closedError, first.server, Pool.closedError]
      rw [← same]
      exact second.refused (first.closed shut) index flight (Nat.le_of_not_lt early) present
  held shut index reservation there :=
    first.held shut index reservation
      (second.held (first.tableClosed shut) index reservation there)

/-- One exchange that is not over goes on or is given up. -/
theorem onward_place {index : Nat} {id : UInt16} {stage : Stage C} {next : Option (Stage C)}
    {pool : Pool C} (present : traffic.flights[index]? = some ⟨id, some stage⟩)
    (going : stage.isFinished = false) (alike : traffic.pool.Alike pool)
    (held : traffic.pool.table.closed = true →
      next.bind Stage.reservation? = stage.reservation? ∨ next.bind Stage.reservation? = none) :
    Onward traffic (traffic.place index next pool) := by
  have flights := flights_place present next pool
  have count : (traffic.place index next pool).flights.length = traffic.flights.length := by
    rw [flights, List.length_set]
  obtain ⟨inside, -⟩ := List.getElem?_eq_some_iff.mp present
  constructor
  case server => exact alike.server
  case closed => exact alike.closed.trans
  case tableClosed => exact alike.tableClosed.trans
  case size => exact Nat.le_of_eq count.symm
  case ended =>
    intro other own result ended
    -- The exchange that goes on is not over, so one that is over is another.
    have apart : index ≠ other := by
      rintro rfl
      cases Option.some.inj (present.symm.trans ended)
      exact nomatch going
    rw [flights, List.getElem?_set_ne apart]
    exact ended
  case refused =>
    intro _ other flight beyond there
    rw [List.getElem?_eq_none (Nat.le_trans (Nat.le_of_eq count) beyond)] at there
    exact nomatch there
  case held =>
    intro shut other reservation there
    rw [reservationAt?, flights] at there
    by_cases same : index = other
    · subst same
      rw [List.getElem?_set_self inside] at there
      rw [reservationAt?, present]
      rcases held shut with kept | ended
      · exact kept.symm.trans there
      · exact nomatch ended.symm.trans there
    · rw [List.getElem?_set_ne same] at there
      exact there

/-- One more exchange begins. -/
theorem onward_start (traffic : Traffic C) (query : Message) :
    Onward traffic
      { traffic with
        flights := traffic.flights ++ [⟨query.id, some (traffic.pool.start query)⟩] } := by
  have last (index : Nat) (flight : Flight C) (beyond : traffic.flights.length ≤ index)
      (present : (traffic.flights ++ [⟨query.id, some (traffic.pool.start query)⟩])[index]? =
        some flight) :
      flight = ⟨query.id, some (traffic.pool.start query)⟩ := by
    rw [List.getElem?_append_right beyond] at present
    exact List.mem_singleton.mp (List.mem_of_getElem? present)
  constructor
  case server => rfl
  case closed => exact fun shut => shut
  case tableClosed => exact fun shut => shut
  case size => exact List.length_append ▸ Nat.le_add_right _ _
  case ended =>
    intro index own result ended
    obtain ⟨inside, -⟩ := List.getElem?_eq_some_iff.mp ended
    exact (List.getElem?_append_left inside).trans ended
  case refused =>
    intro shut index flight beyond present
    rw [last index flight beyond present, Pool.start, if_pos shut]
  case held =>
    intro _ index reservation there
    obtain ⟨flight, present, holds⟩ := Option.bind_eq_some_iff.mp there
    by_cases inside : index < traffic.flights.length
    · rw [List.getElem?_append_left inside] at present
      exact Option.bind_eq_some_iff.mpr ⟨flight, present, holds⟩
    · obtain rfl := last index flight (Nat.le_of_not_lt inside) present
      rw [Flight.reservation?, Option.bind_some] at holds
      rcases traffic.pool.start_cases query with ⟨-, begun⟩ | ⟨-, -, begun⟩ | ⟨-, -, begun⟩ <;>
        rw [begun] at holds <;> cases holds

/-- One move keeps what stays at all later times. -/
theorem onward_move {next : Move C} (moved : traffic.move? next = some after) :
    Onward traffic after := by
  cases next with
  | start query =>
    obtain rfl := Option.some.inj moved
    exact onward_start traffic query
  | advance index event =>
    obtain ⟨id, stage, present, awaited, rfl⟩ := move?_advance moved
    exact onward_place present (Stage.isFinished_of_awaits awaited)
      (traffic.pool.alike_step id stage event) fun shut =>
        Pool.reservation?_step shut id stage event
  | abandon index =>
    obtain ⟨id, stage, present, going, rfl⟩ := move?_abandon moved
    exact onward_place present going (traffic.pool.alike_drop stage) fun _ => .inr rfl
  | close part =>
    -- Closing does nothing to the exchanges.
    have same := Onward.refl traffic
    cases part with
    | mark =>
      obtain rfl := Option.some.inj moved
      exact { same with closed := fun _ => rfl }
    | connections =>
      obtain ⟨-, rfl⟩ := move?_close_connections moved
      exact { same with tableClosed := fun _ => rfl }
    | channel =>
      obtain ⟨-, -, rfl⟩ := move?_close_channel moved
      exact { same with }

/-- What no move takes away is so after a run. -/
theorem run_preserves {holds : Traffic C → Prop} {moves : List (Move C)}
    (ran : before.run? moves = some after)
    (step : ∀ {here there : Traffic C} {next : Move C}, here.move? next = some there →
      holds here → holds there)
    (start : holds before) : holds after := by
  induction moves generalizing before with
  | nil =>
    obtain rfl := Option.some.inj ran
    exact start
  | cons next rest ih =>
    obtain ⟨middle, moved, others⟩ := Option.bind_eq_some_iff.mp ((run?_cons ..).symm.trans ran)
    exact ih others (step moved start)

/-- By induction, a run keeps what stays at all later times. -/
theorem onward_run {moves : List (Move C)} (ran : before.run? moves = some after) :
    Onward before after :=
  run_preserves ran (fun moved earlier => earlier.trans (onward_move moved)) (.refl before)

/-- An exchange that starts on a closed pool never does anything. -/
theorem idle_of_closed {moves : List (Move C)} (ran : before.run? moves = some after)
    (shut : before.pool.closed = true) {index : Nat} (late : before.flights.length ≤ index)
    (event : ExchangeEvent C) : .advance index event ∉ moves := by
  intro made
  obtain ⟨first, rest, rfl⟩ := List.append_of_mem made
  rw [run?_append] at ran
  obtain ⟨middle, earlier, others⟩ := Option.bind_eq_some_iff.mp ran
  obtain ⟨next, moved, -⟩ := Option.bind_eq_some_iff.mp ((run?_cons ..).symm.trans others)
  obtain ⟨id, stage, present, awaited, -⟩ := move?_advance moved
  obtain rfl := Option.some.inj ((onward_run earlier).refused shut index _ late present)
  exact nomatch Stage.isFinished_of_awaits awaited

/-- With a closed table no slot more is reserved later. -/
theorem Onward.reserved_le (onward : Onward before after) {dialed more : List C}
    (agrees : Agrees size dialed before) (settled : Agrees size more after)
    (shut : before.pool.table.closed = true) :
    after.pool.table.counts.reserved ≤ before.pool.table.counts.reserved := by
  have slots :
      (after.held.map Reservation.slot).length ≤ (before.held.map Reservation.slot).length := by
    refine (List.subperm_of_subset settled.distinct fun slot taken => ?_).length_le
    obtain ⟨reservation, holds, rfl⟩ := List.mem_map.mp taken
    obtain ⟨index, there⟩ := reservationAt?_of_mem holds
    exact List.mem_map_of_mem
      (mem_held_of_reservationAt? (onward.held shut index reservation there))
  rw [List.length_map, List.length_map] at slots
  rwa [← Slots.Agrees.length_held agrees, ← Slots.Agrees.length_held settled]

end Traffic

end DnsForwarder.Resolver
