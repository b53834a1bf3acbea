import DnsForwarder.Proofs.Resolver.Slots
import DnsForwarder.Resolver.StreamExchange
import Mathlib.Data.List.Induction

/-!
# Exchanges that share a table of slots

Any number of exchanges work with one table. They start, go on with events and are given up in any
order, and the table is closed at any time. Whatever they did so far, each of them that holds a
reservation has a slot for itself, and gives that back once
(`DnsForwarder.Resolver.Sharing.slots_held_apart`).
-/

namespace DnsForwarder.Resolver

variable {C : Type}

/-- The connection that comes with an event. -/
def StreamEvent.dialed? : StreamEvent C → Option C
  | .connected (.ok connection) => some connection
  | _ => none

/-- What going on does to a table, and to the reservation and the connection of an exchange. -/
inductive Effect (dialed : List C) (table : Slots C) (reservation : Option (Reservation C))
    (connection : Option C) : Slots C → Option (Reservation C) → Option C → Prop where
  /-- The exchange goes on to hold its slot, if it has one. -/
  | kept (next : Option C) (fewer : next.toList.Sublist (dialed ++ connection.toList)) :
    Effect dialed table reservation connection table reservation next
  /-- The exchange gives its slot back. -/
  | ended (held : Reservation C) (holds : reservation = some held) (back : Option C)
    (fewer : back.toList.Sublist connection.toList) :
    Effect dialed table reservation connection (table.finalize held.slot back) none none

namespace StreamStage

variable (stage : StreamStage C) (table : Slots C)

/-- To drop a reservation that is not released gives its slot back empty. -/
theorem drop_eq_finalize {reservation : Reservation C} (live : reservation.released = false) :
    reservation.drop table = table.finalize reservation.slot none := by
  rw [Reservation.drop, live, if_neg Bool.false_ne_true]

/-- To drop an exchange gives its slot back, if it has one, and its connection goes. -/
theorem effect_drop (live : ∀ reservation ∈ stage.reservation?, reservation.released = false) :
    Effect [] table stage.reservation? stage.connection? (stage.drop table) none none := by
  rw [drop]
  cases holds : stage.reservation? with
  | none => exact .kept none (List.nil_sublist _)
  | some reservation =>
    dsimp only
    rw [drop_eq_finalize table (live reservation holds)]
    exact .ended reservation rfl none (List.nil_sublist _)

/-- A step of an exchange keeps its slot, or gives it back with the connection that worked or with
none. There is a case for each stage and event, and a connection is carried on only from the one in
use or the one just dialed. -/
theorem effect_step (live : ∀ reservation ∈ stage.reservation?, reservation.released = false)
    (server : Net.SocketAddress) (event : StreamEvent C) :
    let stepped := stage.step server table event
    Effect event.dialed?.toList table stage.reservation? stage.connection? stepped.2
      stepped.1.reservation? stepped.1.connection? := by
  -- An event that is not waited for drops the connection that comes with it.
  have ignored : Effect event.dialed?.toList table stage.reservation? stage.connection? table
      stage.reservation? stage.connection? :=
    .kept _ (List.sublist_append_right _ _)
  have dropped (reservation : Reservation C) (holds : stage.reservation? = some reservation) :
      Effect event.dialed?.toList table stage.reservation? stage.connection?
        (reservation.drop table) none none := by
    rw [drop_eq_finalize table (live reservation holds)]
    exact .ended reservation holds none (List.nil_sublist _)
  cases event with
  | answered result =>
    cases stage with
    | pooled reservation connection =>
      cases result with
      | ok bytes => exact .ended reservation rfl (some connection) (List.Sublist.refl _)
      | error fault => exact .kept none (List.nil_sublist _)
    | dialing reservation => exact ignored
    | fresh reservation connection =>
      cases result with
      | ok bytes => exact .ended reservation rfl (some connection) (List.Sublist.refl _)
      | error fault => exact dropped reservation rfl
    | finished result => exact ignored
  | connected result =>
    cases stage with
    | pooled reservation connection => exact ignored
    | dialing reservation =>
      cases result with
      | ok connection => exact .kept (some connection) (List.Sublist.refl _)
      | error fault => exact dropped reservation rfl
    | fresh reservation connection => exact ignored
    | finished result => exact ignored

/-- Starting takes a reservation, and its connection out of it, unless it is refused. -/
theorem start_cases (server : Net.SocketAddress) :
    let started := start server table
    (∃ reason, table.reserve.1 = .error reason ∧
      started = (.finished (.error (refusal server reason)), table)) ∨
    ∃ reservation, table.reserve = (.ok reservation, started.2) ∧
      started.1.reservation? = some { reservation with connection := none } ∧
      started.1.connection? = reservation.connection := by
  intro started
  cases result : table.reserve with
  | mk outcome after =>
    cases outcome with
    | error reason =>
      left
      refine ⟨reason, rfl, ?_⟩
      simp only [started, start, result, Slots.reserve_error result]
    | ok reservation =>
      right
      refine ⟨reservation, ?_⟩
      cases idle : reservation.connection with
      | none =>
        have same : started = (.dialing reservation, after) := by
          simp only [started, start, result, idle]
        rw [same, ← idle]
        exact ⟨rfl, rfl, idle.symm⟩
      | some connection =>
        have same : started =
            (.pooled { reservation with connection := none } connection, after) := by
          simp only [started, start, result, idle]
        rw [same]
        exact ⟨rfl, rfl, rfl⟩

/-- An exchange ends at its start for the reason that the table gives no slot. -/
theorem start_refused (server : Net.SocketAddress) (reason : Refusal) :
    (start server table).1 = .finished (.error (refusal server reason)) ↔
      table.reserve.1 = .error reason := by
  obtain ⟨found, refused, same⟩ | ⟨reservation, taken, holds, -⟩ := start_cases table server
  · rw [same, refused]
    cases found with
    | closed =>
      cases reason with
      | closed => exact ⟨fun _ => rfl, fun _ => rfl⟩
      | exhausted => exact ⟨nofun, nofun⟩
    | exhausted =>
      cases reason with
      | closed => exact ⟨nofun, nofun⟩
      | exhausted => exact ⟨fun _ => rfl, fun _ => rfl⟩
  · constructor
    · intro ended
      rw [ended] at holds
      exact nomatch holds
    · intro refused
      rw [taken] at refused
      exact nomatch refused

end StreamStage

namespace Slots.Agrees

variable {size : Nat} {dialed carried more : List C} {table after : Slots C}
  {held : List (Reservation C)} {reservation next : Option (Reservation C)}
  {connection fresh : Option C}

/-- What going on does keeps a table in agreement. -/
theorem effect
    (agrees : Agrees size dialed table (reservation.toList ++ held) (connection.toList ++ carried))
    (effect : Effect more table reservation connection after next fresh) :
    Agrees size (more ++ dialed) after (next.toList ++ held) (fresh.toList ++ carried) := by
  have dialing := agrees.dial more
  cases effect with
  | kept _ fewer =>
    refine dialing.mono (.refl _) ?_
    rw [← List.append_assoc]
    exact (fewer.append_right carried).subperm
  | ended reservation holds back fewer =>
    subst holds
    have given :
        Agrees size (more ++ dialed) table (reservation :: held) (back.toList ++ carried) := by
      refine dialing.mono (.refl _) ?_
      exact ((fewer.append_right carried).trans (List.sublist_append_right more _)).subperm
    exact given.finalize reservation back

end Slots.Agrees

/-- A table of slots and the exchanges that share it. Those that were given up are gone. -/
structure Sharing (C : Type) where
  table : Slots C
  stages : List (StreamStage C)

namespace Sharing

/-- What can happen next. -/
inductive Move (C : Type) where
  | start
  | advance (place : Nat) (event : StreamEvent C)
  | giveUp (place : Nat)
  | close

/-- The connection that is dialed in a move. -/
def Move.dialed? : Move C → Option C
  | .advance _ event => event.dialed?
  | _ => none

/-- A move; one of an exchange that is not there changes nothing. -/
def move (server : Net.SocketAddress) (sharing : Sharing C) : Move C → Sharing C
  | .start =>
    let (stage, table) := StreamStage.start server sharing.table
    ⟨table, sharing.stages ++ [stage]⟩
  | .advance place event =>
    match sharing.stages[place]? with
    | none => sharing
    | some stage =>
      let (stage, table) := stage.step server sharing.table event
      ⟨table, sharing.stages.set place stage⟩
  | .giveUp place =>
    match sharing.stages[place]? with
    | none => sharing
    | some stage => ⟨stage.drop sharing.table, sharing.stages.eraseIdx place⟩
  | .close => { sharing with table := sharing.table.close }

/-- Moves one after the other, from free slots and no exchanges. -/
def run (server : Net.SocketAddress) (size : Nat) (moves : List (Move C)) : Sharing C :=
  moves.foldl (move server) ⟨.empty C size, []⟩

/-- The reservations that are outstanding. -/
def held (sharing : Sharing C) : List (Reservation C) :=
  sharing.stages.filterMap StreamStage.reservation?

/-- The connections that exchanges work with. -/
def carried (sharing : Sharing C) : List C := sharing.stages.filterMap StreamStage.connection?

/-- The table agrees with the exchanges. -/
def Agrees (size : Nat) (dialed : List C) (sharing : Sharing C) : Prop :=
  sharing.table.Agrees size dialed sharing.held sharing.carried

/-- What a move does to the reservations: either they are the same, or one more is taken, or one is
ended and frees its own slot. -/
inductive Turnover (before after : Sharing C) : Prop where
  | kept (held : after.held.Perm before.held)
    (table : after.table = before.table ∨ after.table = before.table.close)
  | taken (reservation : Reservation C) (held : after.held.Perm (reservation :: before.held))
    (idle : Option C)
    (table : before.table.Replaces after.table reservation.slot ⟨false, idle⟩ ⟨true, none⟩)
  | freed (reservation : Reservation C) (held : before.held.Perm (reservation :: after.held))
    (idle : Option C)
    (table : before.table.Replaces after.table reservation.slot ⟨true, none⟩ ⟨false, idle⟩)

variable {size : Nat} {dialed : List C} {sharing : Sharing C}

/-- One exchange goes on or is given up; the others are as before. -/
theorem Agrees.exchange (agrees : Agrees size dialed sharing) {place : Nat} {stage : StreamStage C}
    (present : sharing.stages[place]? = some stage) (after : Sharing C) {more : List C}
    {next : Option (Reservation C)} {fresh : Option C}
    (effect : (∀ reservation ∈ stage.reservation?, reservation.released = false) →
      Effect more sharing.table stage.reservation? stage.connection? after.table next fresh)
    (held : after.held.Perm
      (next.toList ++ (sharing.stages.eraseIdx place).filterMap StreamStage.reservation?))
    (carried : after.carried.Perm
      (fresh.toList ++ (sharing.stages.eraseIdx place).filterMap StreamStage.connection?)) :
    Agrees size (more ++ dialed) after ∧ Turnover sharing after ∧
      after.table.closed = sharing.table.closed := by
  have holds := perm_filterMap_eraseIdx StreamStage.reservation? present
  have carries := perm_filterMap_eraseIdx StreamStage.connection? present
  have apart := Slots.Agrees.mono agrees holds.symm carries.symm.subperm
  have changes := effect apart.unreleased
  refine ⟨(apart.effect changes).mono held carried.subperm, ?_⟩
  obtain ⟨table, stages⟩ := after
  cases changes with
  | kept _ fewer => exact ⟨.kept (held.trans holds.symm) (.inl rfl), rfl⟩
  | ended reservation same back fewer =>
    rw [same] at apart holds
    have given := Slots.replaces_finalize apart.present back
    exact ⟨.freed reservation (holds.trans (held.symm.cons _)) _ given, rfl⟩

/-- The start of an exchange takes a free slot with its connection, or changes nothing. -/
theorem Agrees.start (agrees : Agrees size dialed sharing) (server : Net.SocketAddress) :
    Agrees size dialed (sharing.move server .start) ∧
      Turnover sharing (sharing.move server .start) ∧
      (sharing.move server .start).table.closed = sharing.table.closed := by
  let started := StreamStage.start server sharing.table
  have held : (sharing.move server .start).held.Perm _ :=
    perm_filterMap_concat StreamStage.reservation? sharing.stages started.1
  have carried : (sharing.move server .start).carried.Perm _ :=
    perm_filterMap_concat StreamStage.connection? sharing.stages started.1
  obtain ⟨reason, -, refused⟩ | ⟨reservation, taken, holds, carries⟩ :=
    StreamStage.start_cases sharing.table server
  · have same : (sharing.move server .start).table = sharing.table := congrArg Prod.snd refused
    rw [show started = _ from refused] at held carried
    refine ⟨?_, .kept held (.inl same), congrArg Slots.closed same⟩
    rw [Agrees, same]
    exact Slots.Agrees.mono agrees held carried.subperm
  · rw [show started.1.reservation? = _ from holds] at held
    rw [show started.1.connection? = _ from carries] at carried
    have replaces := (Slots.reserve_ok taken).1
    refine ⟨(Slots.Agrees.reserve agrees taken).mono held carried.subperm, ?_⟩
    exact ⟨.taken _ held _ replaces, replaces.closed⟩

/-- A move keeps the table in agreement, turns over at most one reservation, and closes the table
only if it is to close it. -/
theorem Agrees.move (agrees : Agrees size dialed sharing) (server : Net.SocketAddress)
    (next : Move C) :
    Agrees size (next.dialed?.toList ++ dialed) (sharing.move server next) ∧
      Turnover sharing (sharing.move server next) ∧
      ((sharing.move server next).table.closed ↔ sharing.table.closed ∨ next = .close) := by
  have unclosed {after : Sharing C} (same : after.table.closed = sharing.table.closed)
      (other : next ≠ .close) : after.table.closed ↔ sharing.table.closed ∨ next = .close := by
    rw [same]
    exact (or_iff_left other).symm
  cases next with
  | start =>
    obtain ⟨kept, turnover, same⟩ := agrees.start server
    exact ⟨kept, turnover, unclosed same nofun⟩
  | advance place event =>
    cases present : sharing.stages[place]? with
    | none =>
      -- No exchange is there for the event, and a connection that it brings is not taken.
      have same : sharing.move server (.advance place event) = sharing := by
        simp only [Sharing.move, present]
      rw [same]
      refine ⟨(Slots.Agrees.dial agrees _).mono (.refl _) ?_, .kept (.refl _) (.inl rfl),
        unclosed rfl nofun⟩
      exact (List.sublist_append_right _ _).subperm
    | some stage =>
      let stepped := stage.step server sharing.table event
      have moved : sharing.move server (.advance place event) =
          ⟨stepped.2, sharing.stages.set place stepped.1⟩ := by
        simp only [Sharing.move, present, stepped]
      obtain ⟨kept, turnover, same⟩ := agrees.exchange present
        ⟨stepped.2, sharing.stages.set place stepped.1⟩
        (fun live => stage.effect_step sharing.table live server event)
        (perm_filterMap_set StreamStage.reservation? present stepped.1)
        (perm_filterMap_set StreamStage.connection? present stepped.1)
      rw [moved]
      exact ⟨kept, turnover, unclosed same nofun⟩
  | giveUp place =>
    cases present : sharing.stages[place]? with
    | none =>
      have same : sharing.move server (.giveUp place) = sharing := by
        simp only [Sharing.move, present]
      rw [same]
      exact ⟨agrees, .kept (.refl _) (.inl rfl), unclosed rfl nofun⟩
    | some stage =>
      have moved : sharing.move server (.giveUp place) =
          ⟨stage.drop sharing.table, sharing.stages.eraseIdx place⟩ := by
        simp only [Sharing.move, present]
      obtain ⟨kept, turnover, same⟩ := agrees.exchange present
        ⟨stage.drop sharing.table, sharing.stages.eraseIdx place⟩
        (fun live => stage.effect_drop sharing.table live) (.refl _) (.refl _)
      rw [moved]
      exact ⟨kept, turnover, unclosed same nofun⟩
  | close =>
    refine ⟨Slots.Agrees.close agrees, .kept (.refl _) (.inr rfl), ?_⟩
    exact ⟨fun _ => .inr rfl, fun _ => rfl⟩

/-- By induction over the moves, a run agrees with the connections that were dialed, and is closed
if a move closed it. -/
theorem agrees_run (server : Net.SocketAddress) (size : Nat) (moves : List (Move C)) :
    Agrees size (moves.reverse.filterMap Move.dialed?) (run server size moves) ∧
      ((run server size moves).table.closed ↔ .close ∈ moves) := by
  induction moves using List.reverseRecOn with
  | nil => exact ⟨Slots.Agrees.start C size, nofun, nofun⟩
  | append_singleton moves last ih =>
    obtain ⟨agrees, closed⟩ := ih
    obtain ⟨kept, -, closes⟩ := agrees.move server last
    rw [run, List.foldl_concat, List.reverse_concat, filterMap_cons_toList]
    refine ⟨kept, closes.trans ?_⟩
    rw [List.mem_append, List.mem_singleton]
    exact or_congr closed eq_comm

/-- Whatever moves were made, exchanges that hold reservations hold different slots, which are the
reserved ones; no connection is in two places; a reservation is refused for want of an open table or
of a free slot only; each reservation that is ended frees its own slot; and a closed table stores
nothing. -/
theorem slots_held_apart (server : Net.SocketAddress) (size : Nat) (moves : List (Move C)) :
    let sharing := run server size moves
    let table := sharing.table
    let taken := sharing.held.map Reservation.slot
    taken.Nodup ∧ (∀ index, index ∈ taken ↔ table.IsReserved index) ∧
      taken.length = table.counts.reserved ∧ table.counts.reserved ≤ size ∧
      (∀ (index : Nat) (slot : Slot C), table.slots[index]? = some slot → slot.reserved →
        slot.idle = none) ∧
      (table.stored ++ sharing.carried).Subperm (moves.filterMap Move.dialed?) ∧
      table.counts.idle + table.counts.reserved ≤ size ∧
      ((StreamStage.start server table).1 = .finished (.error (.poolClosed (toString server))) ↔
        table.closed) ∧
      ((StreamStage.start server table).1 = .finished (.error (.poolExhausted (toString server))) ↔
        table.closed = false ∧ table.counts.reserved = size) ∧
      (∀ next, Turnover sharing (sharing.move server next)) ∧
      (sharing.held = [] → table.counts.reserved = 0) ∧
      (table.closed ↔ .close ∈ moves) ∧ (.close ∈ moves → table.counts.idle = 0) := by
  intro sharing table taken
  obtain ⟨agrees, closed⟩ := agrees_run server size moves
  have connections : (table.stored ++ sharing.carried).Subperm (moves.filterMap Move.dialed?) :=
    agrees.connections.trans ((List.reverse_perm moves).filterMap _).subperm
  have count : taken.length = table.counts.reserved := by
    rw [List.length_map, Slots.Agrees.length_held agrees]
  refine ⟨agrees.distinct, agrees.reserved, count, Slots.Agrees.reserved_le agrees, agrees.emptied,
    connections, Slots.Agrees.idle_add_reserved_le agrees, ?_, ?_,
    fun next => (agrees.move server next).2.1, ?_, closed, ?_⟩
  · exact (StreamStage.start_refused table server .closed).trans table.reserve_closed
  · refine (StreamStage.start_refused table server .exhausted).trans
      (table.reserve_exhausted.trans ?_)
    rw [show table.counts.size = size from agrees.size]
  · intro none
    rw [← count, List.length_map, none, List.length_nil]
  · intro member
    rw [table.counts_idle, Slots.stored_eq_nil (agrees.dropped (closed.mpr member)),
      List.length_nil]

end Sharing

end DnsForwarder.Resolver
