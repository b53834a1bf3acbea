import DnsForwarder.Proofs.Resolver.Exchange
import DnsForwarder.Proofs.Resolver.Traffic
import Mathlib.Data.List.Nodup

/-!
# What a failed exchange leaves behind

An exchange over a connection that fails frees its slot. If it could not write or read, its
connection is gone for good. If it read a frame that does not answer the query, its connection is in
the slot again (`DnsForwarder.Resolver.Traffic.failed_frees_slot`), and whatever else comes on it
meets the next exchange.
-/

namespace DnsForwarder.Resolver

variable {C : Type}

namespace StreamStage

/-- An exchange that comes to its end gives its slot back, with its connection if it read a
frame. -/
theorem step_ends {stage : StreamStage C} {table : Slots C} {event : StreamEvent C}
    {server : Net.SocketAddress} {read : Except Error Bytes} (awaited : stage.awaits event = true)
    (live : ∀ reservation ∈ stage.reservation?, reservation.released = false)
    (ended : (stage.step server table event).1 = .finished read) :
    ∃ reservation, stage.reservation? = some reservation ∧
      ((∃ bytes connection, event = .answered (.ok bytes) ∧ read = .ok bytes ∧
        stage.connection? = some connection ∧
        (stage.step server table event).2 = table.finalize reservation.slot (some connection)) ∨
      ∃ fault, (event = .answered (.error fault) ∨ event = .connected (.error fault)) ∧
        read = .error (fault.error server) ∧
        (stage.step server table event).2 = table.finalize reservation.slot none) := by
  cases event with
  | answered result =>
    cases stage with
    | pooled reservation connection =>
      cases result with
      | ok bytes =>
        exact ⟨reservation, rfl, .inl ⟨bytes, connection, rfl, (finished.inj ended).symm, rfl, rfl⟩⟩
      | error fault => exact nomatch ended
    | dialing reservation => exact nomatch awaited
    | fresh reservation connection =>
      cases result with
      | ok bytes =>
        exact ⟨reservation, rfl, .inl ⟨bytes, connection, rfl, (finished.inj ended).symm, rfl, rfl⟩⟩
      | error fault =>
        exact ⟨reservation, rfl, .inr ⟨fault, .inl rfl, (finished.inj ended).symm,
          drop_eq_finalize table (live reservation rfl)⟩⟩
    | finished result => exact nomatch awaited
  | connected result =>
    cases stage with
    | pooled reservation connection => exact nomatch awaited
    | dialing reservation =>
      cases result with
      | ok connection => exact nomatch ended
      | error fault =>
        exact ⟨reservation, rfl, .inr ⟨fault, .inr rfl, (finished.inj ended).symm,
          drop_eq_finalize table (live reservation rfl)⟩⟩
    | fresh reservation connection => exact nomatch awaited
    | finished result => exact nomatch awaited

end StreamStage

/-- An exchange on a connection waits for an event of the connection. -/
theorem Stage.stream_of_awaits {stage : StreamStage C} {event : ExchangeEvent C}
    (awaited : (Stage.streaming stage).awaits event = true) :
    ∃ inner, event = .stream inner ∧ stage.awaits inner = true := by
  cases event with
  | stream inner => exact ⟨inner, rfl, awaited⟩
  | turn => exact nomatch awaited
  | datagram bytes => exact nomatch awaited
  | unheard fault => exact nomatch awaited

namespace Traffic

variable {size : Nat} {dialed : List C} {before after last : Traffic C} {index : Nat} {id : UInt16}
  {stage : StreamStage C}

/-- What an exchange over a connection comes to when it goes on in the traffic. -/
theorem move?_streaming {event : ExchangeEvent C}
    (streaming : before.flights[index]? = some ⟨id, some (.streaming stage)⟩)
    (moved : before.move? (.advance index event) = some after) :
    ∃ inner, event = .stream inner ∧ stage.awaits inner = true ∧
      let stepped := stage.step before.pool.server before.pool.table inner
      after.pool.table = stepped.2 ∧
      after.flights =
        before.flights.set index ⟨id, some (Pool.conclude before.pool.server id stepped.1)⟩ := by
  obtain ⟨own, now, present, awaited, rfl⟩ := move?_advance moved
  cases Option.some.inj (streaming.symm.trans present)
  obtain ⟨inner, rfl, awaits⟩ := Stage.stream_of_awaits awaited
  exact ⟨inner, rfl, awaits, rfl, flights_place present _ _⟩

/-- When an exchange is over and its slot is empty, its connection is gone, and only that. -/
theorem connections_perm_cons {connection : C} {next : Option (Stage C)} {slot : Nat}
    (streaming : before.flights[index]? = some ⟨id, some (.streaming stage)⟩)
    (works : stage.connection? = some connection)
    (finished : after.flights = before.flights.set index ⟨id, next⟩)
    (idle : next.bind Stage.connection? = none)
    (emptied : before.pool.table.Replaces after.pool.table slot ⟨true, none⟩ ⟨false, none⟩) :
    before.connections.Perm (connection :: after.connections) := by
  have carried := perm_filterMap_eraseIdx Flight.connection? streaming
  have left := perm_filterMap_set Flight.connection? streaming ⟨id, next⟩
  rw [Flight.connection?, Option.bind_some, Stage.connection?, works] at carried
  rw [← finished, Flight.connection?, idle] at left
  refine ((carried.trans (left.symm.cons connection)).append_left _).trans ?_
  refine List.perm_middle.trans (List.Perm.cons connection ?_)
  exact emptied.stored.symm.append_right _

/-- A connection that is gone does not come back. -/
theorem notMem_connections_of_run {connection : C} {moves later : List (Move C)}
    (agrees : Agrees size (moves.filterMap Move.dialed?) before)
    (settled : Agrees size dialed after)
    (gone : before.connections.Perm (connection :: after.connections))
    (ran : after.run? later = some last)
    (distinct : ((moves ++ later).filterMap Move.dialed?).Nodup) :
    connection ∉ last.connections := by
  rw [List.filterMap_append, List.nodup_append'] at distinct
  obtain ⟨once, -, apart⟩ := distinct
  obtain ⟨found, same, among⟩ := gone.symm.subperm.trans agrees.connections
  have alone : (connection :: after.connections).Nodup := same.nodup_iff.mp (once.sublist among)
  have early : connection ∈ moves.filterMap Move.dialed? :=
    among.subset (same.mem_iff.mpr List.mem_cons_self)
  intro there
  rcases settled.dialed_of_run ran there with late | left
  · exact apart early late
  · exact (List.nodup_cons.mp alone).1 left

/-- An exchange over a connection that fails frees its slot and changes no other. If it read no
frame, the slot is empty, and its connection is not used again by any exchange, whatever moves
follow, as long as no connection is dialed twice. If it read a frame, this is no answer to the
query, and the connection is in the slot again unless connections were dropped meanwhile. -/
theorem failed_frees_slot {server : Net.SocketAddress} {moves : List (Move C)}
    {event : ExchangeEvent C} {error : Error}
    (ran : (fresh server size).run? moves = some before)
    (streaming : before.flights[index]? = some ⟨id, some (.streaming stage)⟩)
    (moved : before.move? (.advance index event) = some after)
    (failed : after.flights[index]? = some ⟨id, some (.finished (.error error))⟩) :
    ∃ reservation kept, stage.reservation? = some reservation ∧
      before.pool.table.Replaces after.pool.table reservation.slot ⟨true, none⟩ ⟨false, kept⟩ ∧
      (event.octets? = none → kept = none ∧
        (∃ fault : Net.Fault, error = fault.error before.pool.server) ∧
        ∀ connection ∈ stage.connection?, ∀ later last, after.run? later = some last →
          ((moves ++ later).filterMap Move.dialed?).Nodup → connection ∉ last.connections) ∧
      ∀ bytes, event.octets? = some bytes →
        (∀ answer, Message.decode bytes = .ok answer → answer.id ≠ id) ∧
        ∃ connection, stage.connection? = some connection ∧
          kept = if before.pool.table.closed then none else some connection := by
  have agrees := agrees_of_run ran
  have settled := agrees.move moved
  have apart := agrees.apart streaming
  obtain ⟨inner, rfl, awaits, table, flights⟩ := move?_streaming streaming moved
  obtain ⟨inside, -⟩ := List.getElem?_eq_some_iff.mp streaming
  rw [flights, List.getElem?_set_self inside] at failed
  have concluded := Option.some.inj (Flight.mk.inj (Option.some.inj failed)).2
  obtain ⟨read, ended, result⟩ := Pool.eq_finished_of_conclude concluded
  obtain ⟨reservation, holds, back⟩ := StreamStage.step_ends awaits apart.unreleased ended
  rw [Option.bind_some, Stage.reservation?, holds] at apart
  have given := Slots.replaces_finalize apart.present
  rcases back with ⟨bytes, connection, rfl, rfl, works, freed⟩ | ⟨fault, came, rfl, freed⟩
  · -- A frame was read, so that the error is the verdict on it.
    have kept := given (some connection)
    rw [← freed, ← table] at kept
    refine ⟨reservation, _, holds, kept, nofun, ?_⟩
    rintro _ ⟨⟩
    refine ⟨fun answer decoded own => ?_, connection, works, rfl⟩
    exact nomatch result.trans (Pool.frameAnswer_eq_ok_iff.mpr ⟨decoded, own⟩)
  · have emptied := given none
    rw [← freed, ← table, ite_self] at emptied
    have idle : (some (Pool.conclude before.pool.server id _)).bind Stage.connection? = none :=
      congrArg Stage.connection? concluded
    have silent : (ExchangeEvent.stream inner).octets? = none := by
      rcases came with rfl | rfl <;> rfl
    have same := Except.error.inj result
    refine ⟨reservation, none, holds, emptied, fun _ => ⟨rfl, ⟨fault, same⟩, ?_⟩, ?_⟩
    · intro connection works later last ran distinct
      have gone := connections_perm_cons streaming works flights idle emptied
      exact notMem_connections_of_run agrees settled gone ran distinct
    · intro bytes brings
      rw [silent] at brings
      exact nomatch brings

/-- An exchange that is late leaves its slot empty. -/
theorem failed_frees_slot_late :
    ∃ before after : Traffic Nat,
      (fresh (.v4 .loopback 53) 1).run?
        [.start { id := 1 }, .advance 0 .turn, .advance 0 (.unheard .late),
        .advance 0 (.stream (.connected (.ok 0)))] = some before ∧
      before.move? (.advance 0 (.stream (.answered (.error .late)))) = some after ∧
      after.pool.table.slots[0]? = some ⟨false, none⟩ := by
  have ran : (fresh (.v4 .loopback 53) 1 : Traffic Nat).run? [.start { id := 1 }, .advance 0 .turn,
      .advance 0 (.unheard .late), .advance 0 (.stream (.connected (.ok 0)))] =
      some ⟨{ server := .v4 .loopback 53, table := ⟨#[⟨true, none⟩], 0, false⟩ },
        [⟨1, some (.streaming (.fresh ⟨0, none, false⟩ 0))⟩]⟩ := rfl
  have moved : Traffic.move? ⟨{ server := .v4 .loopback 53, table := ⟨#[⟨true, none⟩], 0, false⟩ },
      [⟨1, some (.streaming (.fresh ⟨0, none, false⟩ 0))⟩]⟩
      (.advance 0 (.stream (.answered (.error .late)))) = some _ := rfl
  obtain ⟨reservation, kept, holds, replaces, empty, -⟩ := failed_frees_slot ran rfl moved rfl
  obtain rfl := Option.some.inj holds
  obtain ⟨rfl, -⟩ := empty rfl
  exact ⟨_, _, ran, moved, (replaces.getElem? 0).trans (if_pos rfl)⟩

/-- After a frame with another identifier, which fails the exchange that reads it, the slot holds
the connection, and the answer that comes late on it fails the next exchange. -/
theorem misnumbered_frame_spoils_next :
    ∃ (first used last : Traffic Nat) (reservation : Reservation Nat) (error other : Error),
      (fresh (.v4 .loopback 53) 1).run?
        [.start { id := 1 }, .advance 0 .turn, .advance 0 (.unheard .late),
        .advance 0 (.stream (.connected (.ok 0))),
        .advance 0 (.stream (.answered (.ok [0, 9, 0x80, 0, 0, 0, 0, 0, 0, 0, 0, 0])))] =
          some first ∧
      first.flights[0]? = some ⟨1, some (.finished (.error error))⟩ ∧
      first.pool.table.slots[0]? = some ⟨false, some 0⟩ ∧
      first.run? [.start { id := 2 }, .advance 1 .turn, .advance 1 (.unheard .late)] = some used ∧
      used.flights[1]? = some ⟨2, some (.streaming (.pooled reservation 0))⟩ ∧
      used.move? (.advance 1 (.stream (.answered
        (.ok [0, 1, 0x80, 0, 0, 0, 0, 0, 0, 0, 0, 0])))) = some last ∧
      last.flights[1]? = some ⟨2, some (.finished (.error other))⟩ :=
  ⟨_, _, _, _, _, _, rfl, rfl, rfl, rfl, rfl, rfl, rfl⟩

end Traffic

end DnsForwarder.Resolver
