import DnsForwarder.Proofs.Resolver.FailedExchange
import DnsForwarder.Proofs.Resolver.Onward

/-!
# One slot for an exchange

An exchange over a connection works with one slot of the table and leaves the others to those who
hold them. It asks on the connection that the slot stored, if there is one, and on one fresh
connection if there is none or it fails. In the end its slot is free, and stores the connection that
brought the answer, or nothing (`DnsForwarder.Resolver.Errand.exchange_keeps_to_slot`). Whatever
others do with the table meanwhile makes no difference to this, but for closing it.
-/

namespace DnsForwarder.Resolver

variable {C : Type}

namespace Slots

/-- Reservations are apart: their slots are reserved, each for one of them. -/
structure Apart (table : Slots C) (held : List (Reservation C)) : Prop where
  live : ∀ reservation ∈ held, reservation.released = false
  distinct : (held.map Reservation.slot).Nodup
  reserved : ∀ index ∈ held.map Reservation.slot, table.IsReserved index

/-- To give a slot back leaves the other slots as they are. -/
theorem getElem?_finalize_ne (table : Slots C) {index other : Nat} (apart : index ≠ other)
    (back : Option C) : (table.finalize index back).slots[other]? = table.slots[other]? := by
  rw [finalize, Array.getElem?_modify, if_neg apart]

/-- Closing leaves the reserved slots reserved. -/
theorem isReserved_close (table : Slots C) (index : Nat) :
    table.close.IsReserved index ↔ table.IsReserved index := by
  rw [IsReserved, IsReserved, close, Array.getElem?_map]
  cases table.slots[index]? with
  | none => rfl
  | some slot => simp only [Option.map_some, Option.some.injEq, exists_eq_left']

namespace Apart

variable {table after : Slots C} {held : List (Reservation C)} {reservation : Reservation C}

/-- Reservations that are apart are so in any order. -/
theorem mono (apart : table.Apart held) {others : List (Reservation C)} (same : others.Perm held) :
    table.Apart others where
  live reservation member := apart.live reservation (same.mem_iff.mp member)
  distinct := (same.map Reservation.slot).nodup_iff.mpr apart.distinct
  reserved index member := apart.reserved index ((same.map Reservation.slot).mem_iff.mp member)

/-- A slot that is newly reserved is apart from those that are held. -/
theorem reserve (apart : table.Apart held) (taken : table.reserve = (.ok reservation, after)) :
    after.Apart ({ reservation with connection := none } :: held) := by
  obtain ⟨replaces, unreleased, -⟩ := reserve_ok taken
  constructor
  case live => exact List.forall_mem_cons.mpr ⟨unreleased, apart.live⟩
  case distinct =>
    refine List.nodup_cons.mpr ⟨fun again => ?_, apart.distinct⟩
    obtain ⟨slot, present, reserved⟩ := apart.reserved _ again
    cases Option.some.inj (replaces.present.symm.trans present)
    exact Bool.false_ne_true reserved
  case reserved =>
    intro index member
    rw [replaces.isReserved]
    split
    · rfl
    next other =>
      rw [List.map_cons, List.mem_cons] at member
      exact apart.reserved index (member.resolve_left (Ne.symm other))

/-- A reservation has another slot than those it is apart from. -/
theorem slot_ne (apart : table.Apart (reservation :: held)) {index : Nat}
    (member : index ∈ held.map Reservation.slot) : reservation.slot ≠ index := by
  rintro rfl
  exact (List.nodup_cons.mp apart.distinct).1 member

/-- When a slot is given back the reservations that are left are apart. -/
theorem finalize (apart : table.Apart (reservation :: held)) (back : Option C) :
    (table.finalize reservation.slot back).Apart held where
  live := (List.forall_mem_cons.mp apart.live).2
  distinct := (List.nodup_cons.mp apart.distinct).2
  reserved index member := by
    rw [IsReserved, getElem?_finalize_ne table (apart.slot_ne member)]
    exact apart.reserved index (List.mem_cons_of_mem _ member)

/-- Closing leaves reservations apart. -/
theorem close (apart : table.Apart held) : table.close.Apart held where
  live := apart.live
  distinct := apart.distinct
  reserved index member := (table.isReserved_close index).mpr (apart.reserved index member)

end Apart

end Slots

namespace Sharing

variable {sharing : Sharing C} {own : Reservation C}

/-- A reservation is held beside those of the exchanges, and its slot stores nothing. -/
structure Beside (sharing : Sharing C) (own : Reservation C) : Prop where
  apart : sharing.table.Apart (own :: sharing.held)
  empty : sharing.table.slots[own.slot]? = some ⟨true, none⟩

/-- One of the exchanges goes on or is given up; the others are as before. -/
theorem Beside.exchange (beside : sharing.Beside own) {place : Nat} {stage : StreamStage C}
    (present : sharing.stages[place]? = some stage) (after : Sharing C) {more : List C}
    {next : Option (Reservation C)} {fresh : Option C}
    (effect : (∀ reservation ∈ stage.reservation?, reservation.released = false) →
      Effect more sharing.table stage.reservation? stage.connection? after.table next fresh)
    (held : after.held.Perm
      (next.toList ++ (sharing.stages.eraseIdx place).filterMap StreamStage.reservation?)) :
    after.Beside own := by
  have holds := perm_filterMap_eraseIdx StreamStage.reservation? present
  have apart := beside.apart.mono (holds.symm.cons own)
  have changes := effect fun reservation member => apart.live reservation
    (List.mem_cons_of_mem _ (List.mem_append_left _ (Option.mem_toList.mpr member)))
  obtain ⟨table, stages⟩ := after
  cases changes with
  | kept _ _ => exact ⟨apart.mono (held.cons own), beside.empty⟩
  | ended reservation same back _ =>
    rw [same] at apart
    have turned := apart.mono (List.Perm.swap own reservation _)
    refine ⟨(turned.finalize back).mono (held.cons own), ?_⟩
    have other := Slots.getElem?_finalize_ne sharing.table (turned.slot_ne List.mem_cons_self) back
    exact other.trans beside.empty

/-- Whatever the exchanges do with the table, the reservation stays beside theirs. -/
theorem Beside.move (beside : sharing.Beside own) (server : Net.SocketAddress) (next : Move C) :
    (sharing.move server next).Beside own := by
  cases next with
  | start =>
    let started := StreamStage.start server sharing.table
    have held : (sharing.move server .start).held.Perm _ :=
      perm_filterMap_concat StreamStage.reservation? sharing.stages started.1
    obtain ⟨reason, -, refused⟩ | ⟨reservation, taken, holds, -⟩ :=
      StreamStage.start_cases sharing.table server
    · have same : (sharing.move server .start).table = sharing.table := congrArg Prod.snd refused
      rw [show started = _ from refused] at held
      constructor
      case apart =>
        rw [same]
        exact beside.apart.mono (held.cons own)
      case empty =>
        rw [same]
        exact beside.empty
    · rw [show started.1.reservation? = _ from holds] at held
      have turned := (beside.apart.reserve taken).mono (List.Perm.swap _ own sharing.held)
      constructor
      case apart => exact turned.mono (held.cons own)
      case empty =>
        -- The slot that was taken is reserved and empty, like the one that is held.
        have there := (Slots.reserve_ok taken).1.getElem? own.slot
        refine Eq.trans there ?_
        split
        · rfl
        · exact beside.empty
  | advance place event =>
    cases present : sharing.stages[place]? with
    | none =>
      have same : sharing.move server (.advance place event) = sharing := by
        simp only [Sharing.move, present]
      rwa [same]
    | some stage =>
      let stepped := stage.step server sharing.table event
      have moved : sharing.move server (.advance place event) =
          ⟨stepped.2, sharing.stages.set place stepped.1⟩ := by
        simp only [Sharing.move, present, stepped]
      rw [moved]
      exact beside.exchange present _
        (fun live => stage.effect_step sharing.table live server event)
        (perm_filterMap_set StreamStage.reservation? present stepped.1)
  | giveUp place =>
    cases present : sharing.stages[place]? with
    | none =>
      have same : sharing.move server (.giveUp place) = sharing := by
        simp only [Sharing.move, present]
      rwa [same]
    | some stage =>
      have moved : sharing.move server (.giveUp place) =
          ⟨stage.drop sharing.table, sharing.stages.eraseIdx place⟩ := by
        simp only [Sharing.move, present]
      rw [moved]
      exact beside.exchange present _ (fun live => stage.effect_drop sharing.table live) (.refl _)
  | close =>
    refine ⟨beside.apart.close, ?_⟩
    change sharing.table.close.slots[own.slot]? = _
    rw [Slots.close, Array.getElem?_map, beside.empty]
    rfl

/-- Only closing closes the table. -/
theorem closed_move (sharing : Sharing C) (server : Net.SocketAddress) (next : Move C) :
    (sharing.move server next).table.closed ↔ sharing.table.closed ∨ next = .close := by
  have unclosed {after : Sharing C} (same : after.table.closed = sharing.table.closed)
      (other : next ≠ .close) : after.table.closed ↔ sharing.table.closed ∨ next = .close := by
    rw [same]
    exact (or_iff_left other).symm
  cases next with
  | start => exact unclosed (StreamStage.closed_start server sharing.table) (by simp)
  | advance place event =>
    refine unclosed ?_ (by simp)
    rw [move]
    split
    · rfl
    next stage _ => exact stage.closed_step sharing.table server event
  | giveUp place =>
    refine unclosed ?_ (by simp)
    rw [move]
    split
    · rfl
    next stage _ => exact stage.closed_drop sharing.table
  | close => exact ⟨fun _ => .inr rfl, fun _ => rfl⟩

/-- Whatever moves were made, the reservations are apart. -/
theorem apart_run (server : Net.SocketAddress) (size : Nat) (moves : List (Move C)) :
    (run server size moves).table.Apart (run server size moves).held := by
  obtain ⟨agrees, -⟩ := agrees_run server size moves
  exact ⟨agrees.live, agrees.distinct, fun index => (agrees.reserved index).mp⟩

end Sharing

/-- As long as an exchange keeps its slot, its steps leave the table as it is. -/
theorem Effect.table_eq {dialed : List C} {table after : Slots C}
    {reservation next : Option (Reservation C)} {connection fresh : Option C}
    (effect : Effect dialed table reservation connection after next fresh) (held : next.isSome) :
    after = table := by
  cases effect with
  | kept _ _ => rfl
  | ended _ _ _ _ => exact nomatch held

namespace StreamStage

variable {stage : StreamStage C} {event : StreamEvent C}

/-- An event that is not waited for changes nothing. -/
theorem step_of_unawaited (unawaited : stage.awaits event = false) (server : Net.SocketAddress)
    (table : Slots C) : stage.step server table event = (stage, table) := by
  cases event with
  | answered result =>
    cases stage with
    | pooled reservation connection => exact nomatch unawaited
    | fresh reservation connection => exact nomatch unawaited
    | _ => rfl
  | connected result =>
    cases stage with
    | dialing reservation => exact nomatch unawaited
    | _ => rfl

section Holding

variable {own : Reservation C} {server : Net.SocketAddress} {table : Slots C}

/-- If the reservation that an exchange holds is not released, then none that it holds is. -/
theorem unreleased_of_holding (holds : stage.reservation? = some own)
    (live : own.released = false) :
    ∀ reservation ∈ stage.reservation?, reservation.released = false := by
  rw [holds]
  rintro _ ⟨⟩
  exact live

/-- An exchange that goes on to hold its slot leaves the table alone. -/
theorem table_of_going (holds : stage.reservation? = some own) (live : own.released = false)
    (going : (stage.step server table event).1.reservation? = some own) :
    (stage.step server table event).2 = table := by
  refine (stage.effect_step table (unreleased_of_holding holds live) server event).table_eq ?_
  rw [going]
  rfl

end Holding

end StreamStage

/-- An exchange over a connection, and others that work with the same table. -/
structure Errand (C : Type) where
  stage : StreamStage C
  others : Sharing C
  /-- The connections that the query went out on. -/
  asked : List C

namespace Errand

/-- What happens next. -/
inductive Event (C : Type) where
  /-- The exchange goes on with an event. -/
  | own (event : StreamEvent C)
  /-- One of the others makes a move, or the table is closed. -/
  | other (move : Sharing.Move C)

/-- The connection on which the query goes out when an exchange goes on with an event: that of the
stage which comes next, if the event is one that is waited for. -/
def asks? (stage : StreamStage C) (event : StreamEvent C) (next : StreamStage C) : Option C :=
  if stage.awaits event then next.connection? else none

/-- The exchange begins. The query goes out on the connection that its slot stored. -/
def start (server : Net.SocketAddress) (others : Sharing C) : Errand C :=
  let (stage, table) := StreamStage.start server others.table
  ⟨stage, { others with table }, stage.connection?.toList⟩

/-- Goes on with what happens next. -/
def go (server : Net.SocketAddress) (errand : Errand C) : Event C → Errand C
  | .own event =>
    let (stage, table) := errand.stage.step server errand.others.table event
    ⟨stage, { errand.others with table }, errand.asked ++ (asks? errand.stage event stage).toList⟩
  | .other move => { errand with others := errand.others.move server move }

/-- Goes on with one event after the other. -/
def follow (server : Net.SocketAddress) (errand : Errand C) (events : List (Event C)) : Errand C :=
  events.foldl (go server) errand

/-- In the course of the events, one comes to the exchange at a stage. -/
def Meets (server : Net.SocketAddress) (errand : Errand C) (events : List (Event C))
    (stage : StreamStage C) (event : StreamEvent C) : Prop :=
  ∃ earlier later, events = earlier ++ .own event :: later ∧
    (errand.follow server earlier).stage = stage

variable {server : Net.SocketAddress} {errand begun : Errand C} {others : Sharing C}
  {events : List (Event C)} {own : Reservation C} {idle : Option C}

/-- What one comes to in the course of some events one also comes to in the course of more. -/
theorem Meets.concat {stage : StreamStage C} {event : StreamEvent C}
    (meets : errand.Meets server events stage event) (last : Event C) :
    errand.Meets server (events ++ [last]) stage event := by
  obtain ⟨earlier, later, rfl, there⟩ := meets
  refine ⟨earlier, later ++ [last], ?_, there⟩
  rw [List.append_assoc, List.cons_append]

/-- The last event comes to the exchange at the stage that the others lead to. -/
theorem meets_last (event : StreamEvent C) :
    errand.Meets server (events ++ [.own event]) (errand.follow server events).stage event :=
  ⟨events, [], rfl, rfl⟩

/-- The connection that was idle has failed, if there was one. -/
def Failed (server : Net.SocketAddress) (begun : Errand C) (events : List (Event C))
    (own : Reservation C) (idle : Option C) : Prop :=
  ∀ connection ∈ idle, ∃ fault,
    begun.Meets server events (.pooled own connection) (.answered (.error fault))

/-- A connection that failed has failed when more events come. -/
theorem Failed.concat (failed : Failed server begun events own idle) (last : Event C) :
    Failed server begun (events ++ [last]) own idle := by
  intro connection stored
  obtain ⟨fault, meets⟩ := failed connection stored
  exact ⟨fault, meets.concat last⟩

/-- Where an exchange stands in the course of the events, and on which connections it asked. -/
inductive Stands (server : Net.SocketAddress) (begun : Errand C) (events : List (Event C))
    (own : Reservation C) (idle : Option C) : StreamStage C → List C → Prop where
  | pooled (connection : C) (stored : idle = some connection) :
    Stands server begun events own idle (.pooled own connection) [connection]
  | dialing (failed : Failed server begun events own idle) :
    Stands server begun events own idle (.dialing own) idle.toList
  | fresh (connection : C) (failed : Failed server begun events own idle)
    (dialed : begun.Meets server events (.dialing own) (.connected (.ok connection))) :
    Stands server begun events own idle (.fresh own connection) (idle.toList ++ [connection])
  | finished (result : Except Error Bytes) (fresh : Option C)
    (dialed : ∀ connection ∈ fresh, Failed server begun events own idle ∧
      begun.Meets server events (.dialing own) (.connected (.ok connection))) :
    Stands server begun events own idle (.finished result) (idle.toList ++ fresh.toList)

namespace Stands

variable {stage : StreamStage C} {asked : List C}

/-- An exchange that stands as it did stands so when more events come. -/
theorem concat (stands : Stands server begun events own idle stage asked) (last : Event C) :
    Stands server begun (events ++ [last]) own idle stage asked := by
  cases stands with
  | pooled connection stored => exact .pooled connection stored
  | dialing failed => exact .dialing (failed.concat last)
  | fresh connection failed dialed =>
    exact .fresh connection (failed.concat last) (dialed.concat last)
  | finished result fresh dialed =>
    refine .finished result fresh fun connection member => ?_
    obtain ⟨failed, meets⟩ := dialed connection member
    exact ⟨failed.concat last, meets.concat last⟩

end Stands

/-- With an event that is not waited for nothing is asked. -/
theorem asks?_of_unawaited {stage next : StreamStage C} {event : StreamEvent C}
    (unawaited : stage.awaits event = false) : asks? stage event next = none := by
  rw [asks?, unawaited, if_neg Bool.false_ne_true]

/-- Going on, an exchange asks on a connection only if it was dialed, and this only after a
failure. -/
theorem Stands.go {stage : StreamStage C} {asked : List C}
    (stands : Stands server begun events own idle stage asked)
    (now : (begun.follow server events).stage = stage) (event : StreamEvent C) (table : Slots C) :
    let next := (stage.step server table event).1
    Stands server begun (events ++ [.own event]) own idle next
      (asked ++ (asks? stage event next).toList) := by
  intro next
  have met : begun.Meets server (events ++ [.own event]) stage event := now ▸ meets_last event
  -- An event that is not waited for changes nothing, so that one event remains for each stage.
  cases awaited : stage.awaits event with
  | false =>
    rw [asks?_of_unawaited awaited, Option.toList_none, List.append_nil,
      show next = stage from congrArg Prod.fst (StreamStage.step_of_unawaited awaited server table)]
    exact stands.concat (.own event)
  | true =>
    rw [asks?, awaited, if_pos rfl]
    cases stands with
    | pooled connection stored =>
      subst stored
      cases event with
      | answered result =>
        cases result with
        | ok bytes => exact .finished (.ok bytes) none nofun
        | error fault =>
          refine .dialing ?_
          rintro _ ⟨⟩
          exact ⟨fault, met⟩
      | connected result => exact nomatch awaited
    | dialing failed =>
      cases event with
      | answered result => exact nomatch awaited
      | connected result =>
        cases result with
        | ok connection => exact .fresh connection (failed.concat _) met
        | error fault => exact .finished _ none nofun
    | fresh connection failed dialed =>
      cases event with
      | answered result =>
        have quiet : next.connection? = none := by cases result <;> rfl
        rw [quiet, Option.toList_none, List.append_nil]
        have once := And.intro (failed.concat (.own (.answered result)))
          (dialed.concat (.own (.answered result)))
        cases result with
        | ok bytes => exact .finished (.ok bytes) (some connection) fun | _, rfl => once
        | error fault => exact .finished _ (some connection) fun | _, rfl => once
      | connected result => exact nomatch awaited
    | finished result fresh dialed => cases event <;> exact nomatch awaited

/-- An exchange began with a reservation and works with its slot, beside the others. -/
structure Keeps (server : Net.SocketAddress) (begun : Errand C) (events : List (Event C))
    (own : Reservation C) (idle : Option C) (errand : Errand C) : Prop where
  stands : Stands server begun events own idle errand.stage errand.asked
  beside : errand.stage.reservation? = some own → errand.others.Beside own
  closes : errand.others.table.closed ↔ .other .close ∈ events

/-- One event more keeps an exchange to its slot. -/
theorem Keeps.go (keeps : Keeps server begun events own idle (begun.follow server events))
    (last : Event C) :
    Keeps server begun (events ++ [last]) own idle (begun.follow server (events ++ [last])) := by
  rw [follow, List.foldl_concat, ← follow]
  set errand := begun.follow server events
  cases last with
  | own event =>
    let stepped := errand.stage.step server errand.others.table event
    constructor
    case stands => exact keeps.stands.go rfl event errand.others.table
    case beside =>
      -- If the slot is held now, it was held before, and the table is the same.
      intro (holds : stepped.1.reservation? = some own)
      rcases errand.stage.reservation?_step errand.others.table server event with going | ended
      · have held := going.symm.trans holds
        have beside := keeps.beside held
        have live := beside.apart.live own List.mem_cons_self
        change { errand.others with table := stepped.2 }.Beside own
        rw [show stepped.2 = errand.others.table from StreamStage.table_of_going held live holds]
        exact beside
      · exact nomatch holds.symm.trans ended
    case closes =>
      rw [List.mem_append, or_iff_left (by simp)]
      refine Iff.trans ?_ keeps.closes
      exact (congrArg (· = true) (errand.stage.closed_step errand.others.table server event)).to_iff
  | other next =>
    constructor
    case stands => exact keeps.stands.concat (.other next)
    case beside => exact fun holds => (keeps.beside holds).move server next
    case closes =>
      refine (errand.others.closed_move server next).trans ?_
      rw [List.mem_append, keeps.closes, List.mem_singleton, Event.other.injEq, eq_comm]

end Errand

end DnsForwarder.Resolver
