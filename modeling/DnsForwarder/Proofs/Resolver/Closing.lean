import DnsForwarder.Proofs.Resolver.Deadlines

/-!
# Closing a pool in traffic

A pool is closed in three parts, and between them exchanges go on. An exchange that starts after the
first part is refused at once. After the second no slot is reserved and nothing is stored, so that
an exchange which comes to an answer over a connection has held its slot since before
(`DnsForwarder.Resolver.Traffic.closed_for_good`).
-/

namespace DnsForwarder.Resolver

variable {C : Type}

/-- An exchange comes to its answer by a datagram, or by a frame on the connection of a slot that it
holds. -/
theorem Pool.answer_cases {pool : Pool C} {id : UInt16} {stage : Stage C} {event : ExchangeEvent C}
    {answer : Message} (awaited : stage.awaits event = true)
    (ended : (pool.step id stage event).1 = .finished (.ok answer)) :
    answer.id = id ∧
      ((stage = .listening ∧ ∃ bytes, event = .datagram bytes ∧
          Message.decode (Channel.cut bytes) = .ok answer) ∨
        ∃ reservation bytes, stage.reservation? = some reservation ∧
          event = .stream (.answered (.ok bytes)) ∧ Message.decode bytes = .ok answer) := by
  have live : ∀ read, stage ≠ .streaming (.finished read) := by
    rintro read rfl
    cases event with
    | stream event => cases event <;> exact nomatch awaited
    | _ => exact nomatch awaited
  rcases step_answers live ended with already | ⟨-, own, bytes, came, decoded⟩
  · rw [already] at awaited
    exact nomatch Stage.isFinished_of_awaits awaited
  -- Of the events that each stage waits for only a datagram and a frame bring octets.
  refine ⟨own, ?_⟩
  cases stage with
  | queued =>
    cases event with
    | turn => exact nomatch came
    | _ => exact nomatch awaited
  | listening =>
    cases event with
    | datagram read =>
      obtain rfl := Option.some.inj came
      exact .inl ⟨rfl, read, rfl, decoded⟩
    | unheard fault => exact nomatch came
    | _ => exact nomatch awaited
  | streaming stage =>
    cases event with
    | stream event =>
      cases event with
      | answered result =>
        cases result with
        | error fault => exact nomatch came
        | ok read =>
          obtain rfl := Option.some.inj came
          cases stage with
          | pooled reservation _ => exact .inr ⟨reservation, read, rfl, rfl, decoded⟩
          | fresh reservation _ => exact .inr ⟨reservation, read, rfl, rfl, decoded⟩
          | _ => exact nomatch awaited
      | connected result => exact nomatch came
    | _ => exact nomatch awaited
  | finished result => exact nomatch Stage.isFinished_of_awaits awaited

namespace Traffic

variable {size : Nat} {traffic before after : Traffic C}

/-- Whether a part of closing was done. -/
def Done (traffic : Traffic C) : ClosePart → Prop
  | .mark => traffic.pool.closed = true
  | .connections => traffic.pool.table.closed = true
  | .channel => traffic.pool.channelOpen = false

/-- Closing what is closed changes nothing. -/
theorem move?_close_of_done {size : Nat} {dialed : List C} (agrees : Agrees size dialed traffic)
    (sound : Sound traffic) {part : ClosePart} (done : traffic.Done part) :
    traffic.move? (.close part) = some traffic := by
  obtain ⟨pool, flights⟩ := traffic
  cases part with
  | mark =>
    have same : pool.markClosed = pool := by
      rw [Pool.markClosed, ← show pool.closed = true from done]
    rw [move?, same]
  | connections =>
    have same : pool.closeTable = pool := by
      rw [Pool.closeTable, agrees.close_eq done]
    rw [move?, if_pos (sound.marked done), same]
  | channel =>
    have same : pool.closeChannel = pool := by
      rw [Pool.closeChannel, ← show pool.channelOpen = false from done]
    rw [move?, if_pos, same]
    exact Bool.and_eq_true_iff.mpr
      ⟨sound.dropped done, (channelFree_iff _).mpr (sound.silent done)⟩

/-- What follows when a pool is closed in any traffic. An exchange that starts when the pool is
marked as closed is refused and never does anything. Every other one that comes to an answer has it
from a datagram, or from the connection of a slot that it holds, and has held since before the table
was closed. From then on the table stores nothing, and fewer and fewer of its slots are reserved.
When what is due has come, every exchange is over and no slot is reserved. A part of closing that
was done changes nothing when it is done again. -/
theorem closed_for_good {server : Net.SocketAddress} {moves later : List (Move C)}
    (ran : (fresh server size).run? moves = some before) (went : before.run? later = some after) :
    (before.pool.closed = true → after.pool.closed = true ∧
      ∀ (index : Nat) (flight : Flight C), before.flights.length ≤ index →
        after.flights[index]? = some flight →
        flight.stage = some (.finished (.error (.poolClosed (toString server)))) ∧
          ∀ event, .advance index event ∉ later) ∧
    (∀ (index : Nat) (event : ExchangeEvent C) (last : Traffic C) (id : UInt16) (answer : Message),
      after.move? (.advance index event) = some last →
      last.flights[index]? = some ⟨id, some (.finished (.ok answer))⟩ →
      answer.id = id ∧
        ((after.flights[index]? = some ⟨id, some .listening⟩ ∧
            ∃ bytes, event = .datagram bytes ∧ Message.decode (Channel.cut bytes) = .ok answer) ∨
          ∃ reservation bytes, after.reservationAt? index = some reservation ∧
            event = .stream (.answered (.ok bytes)) ∧ Message.decode bytes = .ok answer ∧
            (before.pool.table.closed = true →
              before.reservationAt? index = some reservation))) ∧
    (before.pool.table.closed = true → after.pool.table.closed = true ∧
      (∀ (index : Nat) (reservation : Reservation C),
        after.reservationAt? index = some reservation →
        before.reservationAt? index = some reservation) ∧
      after.pool.table.counts.idle = 0 ∧
      after.pool.table.counts.reserved ≤ before.pool.table.counts.reserved) ∧
    (∃ ending last, (∀ move ∈ ending, move.IsDue) ∧ after.run? ending = some last ∧
      (∀ flight ∈ last.flights, flight.IsOver) ∧ last.pool.table.counts.reserved = 0) ∧
    ∀ part, before.Done part → before.move? (.close part) = some before := by
  have agrees := agrees_of_run ran
  have reached : (fresh server size).run? (moves ++ later) = some after := by
    rw [run?_append, ran]
    exact went
  have settled := agrees_of_run reached
  have start : Sound (fresh server size : Traffic C) := ⟨nofun, nofun, nofun, List.forall_mem_nil _⟩
  have onward := onward_run went
  have here : before.pool.server = server := (onward_run ran).server
  refine ⟨fun shut => ⟨onward.closed shut, ?_⟩, ?_, fun shut => ?_, ?_,
    fun part done => move?_close_of_done agrees (start.run ran) done⟩
  · intro index flight late present
    refine ⟨?_, idle_of_closed went shut late⟩
    rw [onward.refused shut index flight late present, Pool.closedError, here]
  · intro index event last id answer moved ended
    obtain ⟨own, stage, present, awaited, rfl⟩ := move?_advance moved
    obtain ⟨inside, -⟩ := List.getElem?_eq_some_iff.mp present
    rw [flights_place present, List.getElem?_set_self inside] at ended
    obtain ⟨rfl, stepped⟩ := Flight.mk.inj (Option.some.inj ended)
    obtain ⟨same, heard | ⟨reservation, bytes, holds, came, decoded⟩⟩ :=
      Pool.answer_cases awaited (Option.some.inj stepped)
    · obtain ⟨rfl, datagram⟩ := heard
      exact ⟨same, .inl ⟨present, datagram⟩⟩
    · have there : after.reservationAt? index = some reservation := by
        rw [reservationAt?, present]
        exact holds
      exact ⟨same, .inr ⟨reservation, bytes, there, came, decoded, fun shut =>
        onward.held shut index reservation there⟩⟩
  · have closed := onward.tableClosed shut
    refine ⟨closed, onward.held shut, ?_, onward.reserved_le agrees settled shut⟩
    rw [Slots.counts_idle, Slots.stored_eq_nil (settled.dropped closed), List.length_nil]
  · obtain ⟨ending, last, due, ran, all_over⟩ := exists_due_run (start.run reached)
    have drained := (settled.run ran).length_held
    rw [held_eq_nil all_over] at drained
    exact ⟨ending, last, due, ran, all_over, drained.symm⟩

/-- An exchange that dials while the pool is closed gets its answer over the slot that it holds,
which stores nothing after that; one that starts meanwhile is refused. -/
theorem closed_for_good_while_dialing :
    let later : List (Move Nat) := [.start { id := 2 }, .advance 0 (.stream (.connected (.ok 0))),
      .advance 0 (.stream (.answered (.ok [0, 1, 0x80, 0, 0, 0, 0, 0, 0, 0, 0, 0])))]
    ∃ before after : Traffic Nat,
      (fresh (.v4 .loopback 53) 1).run?
        [.start { id := 1 }, .advance 0 .turn, .advance 0 (.unheard .late),
        .close .mark, .close .connections] = some before ∧
      before.run? later = some after ∧
      before.pool.table.counts.reserved = 1 ∧ after.pool.table.counts.reserved = 0 ∧
      after.pool.table.counts.idle = 0 ∧
      (∃ answer, after.flights[0]? = some ⟨1, some (.finished (.ok answer))⟩) ∧
      (∃ server, after.flights[1]? = some ⟨2, some (.finished (.error (.poolClosed server)))⟩) ∧
      (∀ event, .advance 1 event ∉ later) ∧
      before.move? (.close .mark) = some before ∧
      before.move? (.close .connections) = some before := by
  intro later
  let before : Traffic Nat :=
    { pool :=
        { server := .v4 .loopback 53
          table := Slots.close ⟨#[⟨true, none⟩], 0, false⟩
          closed := true }
      flights := [⟨1, some (.streaming (.dialing ⟨0, none, false⟩))⟩] }
  have ran : (fresh (.v4 .loopback 53) 1).run? [.start { id := 1 }, .advance 0 .turn,
      .advance 0 (.unheard .late), .close .mark, .close .connections] = some before := rfl
  have went : before.run? later = some _ := rfl
  obtain ⟨refused, -, emptied, -, again⟩ := closed_for_good ran went
  obtain ⟨-, -, idle, -⟩ := emptied rfl
  obtain ⟨-, late⟩ := refused rfl
  have reserved := Slots.Agrees.length_held (agrees_of_run ran)
  have freed := Slots.Agrees.length_held ((agrees_of_run ran).run went)
  exact ⟨before, _, ran, went, reserved.symm, freed.symm, idle, ⟨_, rfl⟩, ⟨_, rfl⟩,
    (late 1 _ (Nat.le_refl 1) rfl).2, again .mark rfl, again .connections rfl⟩

end Traffic

end DnsForwarder.Resolver
