import DnsForwarder.Proofs.Resolver.Exchange
import DnsForwarder.Proofs.Resolver.Onward
import Mathlib.Algebra.GroupWithZero.Nat

/-!
# Exchanges come to their end

When nothing is heard in time, an exchange goes on by its turn on the channel and by its deadlines,
each of which brings it nearer to its end. One exchange may have to wait for another, but some
exchange can always go on, so that in the end all of them are over
(`DnsForwarder.Resolver.Traffic.exists_due_run`).
-/

namespace DnsForwarder.Resolver

variable {C : Type}

namespace Stage

/-- How many events are ahead of an exchange, at most, when nothing is heard in time. -/
def ahead : Stage C → Nat
  | .queued => 4
  | .listening => 3
  | .streaming (.pooled _ _) => 2
  | .streaming (.dialing _) => 1
  | .streaming (.fresh _ _) => 1
  | .streaming (.finished _) => 0
  | .finished _ => 0

/-- What comes to an exchange when nothing is heard in time: its turn, or else its deadline. -/
def due? : Stage C → Option (ExchangeEvent C)
  | .queued => some .turn
  | .listening => some (.unheard .late)
  | .streaming (.dialing _) => some (.stream (.connected (.error .late)))
  | .streaming (.pooled _ _) => some (.stream (.answered (.error .late)))
  | .streaming (.fresh _ _) => some (.stream (.answered (.error .late)))
  | .streaming (.finished _) => none
  | .finished _ => none

/-- Nothing is due for an exchange only at its end. -/
theorem due?_eq_none {stage : Stage C} (none : stage.due? = none) :
    (∃ result, stage = .finished result) ∨ ∃ read, stage = .streaming (.finished read) := by
  cases stage with
  | finished result => exact .inl ⟨result, rfl⟩
  | streaming stage =>
    cases stage with
    | finished read => exact .inr ⟨read, rfl⟩
    | _ => exact nomatch none
  | _ => exact nomatch none

end Stage

namespace Pool

/-- Without its socket the channel goes to no exchange. -/
theorem hasChannel_step {pool : Pool C} (silent : pool.channelOpen = false) (id : UInt16)
    {stage : Stage C} (free : stage.hasChannel = false) (event : ExchangeEvent C) :
    (pool.step id stage event).1.hasChannel = false := by
  cases stage with
  | listening => exact nomatch free
  | finished result => cases event <;> rfl
  | queued =>
    cases event with
    | turn =>
      change (if pool.channelOpen then (.listening, pool)
        else _ : Stage C × Pool C).1.hasChannel = _
      rw [silent]
      rfl
    | _ => rfl
  | streaming stage =>
    cases event with
    | stream event =>
      change (conclude pool.server id (stage.step pool.server pool.table event).1).hasChannel =
        false
      cases (stage.step pool.server pool.table event).1 with
      | finished read => cases read <;> rfl
      | _ => rfl
    | _ => rfl

/-- An exchange that falls back to a connection has two events ahead at most. -/
theorem ahead_fallBack (pool : Pool C) (id : UInt16) : (pool.fallBack id).1.ahead ≤ 2 := by
  change (conclude pool.server id (StreamStage.start pool.server pool.table).1).ahead ≤ 2
  cases (StreamStage.start pool.server pool.table).1 with
  | finished read => cases read <;> exact Nat.zero_le 2
  | pooled reservation connection => exact Nat.le_refl 2
  | dialing reservation => exact Nat.le_succ 1
  | fresh reservation connection => exact Nat.le_succ 1

/-- Each event that is due brings an exchange nearer to its end. -/
theorem ahead_step (pool : Pool C) (id : UInt16) {stage : Stage C} {event : ExchangeEvent C}
    (due : stage.due? = some event) :
    stage.awaits event = true ∧ (pool.step id stage event).1.ahead < stage.ahead := by
  cases stage with
  | queued =>
    obtain rfl := Option.some.inj due
    refine ⟨rfl, ?_⟩
    rw [step]
    split
    · exact Nat.lt_succ_self 3
    · exact Nat.succ_pos 3
  | listening =>
    obtain rfl := Option.some.inj due
    exact ⟨rfl, Nat.lt_succ_of_le (pool.ahead_fallBack id)⟩
  | streaming stage =>
    cases stage with
    | finished read => exact nomatch due
    | pooled reservation connection =>
      obtain rfl := Option.some.inj due
      exact ⟨rfl, Nat.lt_succ_self 1⟩
    | dialing reservation =>
      obtain rfl := Option.some.inj due
      exact ⟨rfl, Nat.lt_succ_self 0⟩
    | fresh reservation connection =>
      obtain rfl := Option.some.inj due
      exact ⟨rfl, Nat.lt_succ_self 0⟩
  | finished result => exact nomatch due

end Pool

/-- An exchange goes on by what is due. -/
def Move.IsDue (move : Move C) : Prop :=
  ∃ index stage event, Stage.due? stage = some event ∧ move = .advance index event

/-- An exchange came to its end or was given up. -/
def Flight.IsOver (flight : Flight C) : Prop :=
  match flight.stage with
  | none => True
  | some stage => ∃ result, stage = .finished result

namespace Traffic

variable {traffic before after : Traffic C}

/-- What holds at all times: the parts of closing come one after the other, the last one when no
exchange has the channel, and an exchange whose connection has come to its end is over. -/
structure Sound (traffic : Traffic C) : Prop where
  marked : traffic.pool.table.closed = true → traffic.pool.closed = true
  dropped : traffic.pool.channelOpen = false → traffic.pool.table.closed = true
  silent : traffic.pool.channelOpen = false → ∀ flight ∈ traffic.flights, ∀ stage,
    flight.stage = some stage → stage.hasChannel = false
  live : ∀ flight ∈ traffic.flights, ∀ read, flight.stage ≠ some (.streaming (.finished read))

/-- The channel is free when no exchange has it. -/
theorem channelFree_iff (traffic : Traffic C) :
    traffic.channelFree = true ↔ ∀ flight ∈ traffic.flights, ∀ stage, flight.stage = some stage →
      stage.hasChannel = false := by
  rw [channelFree, List.all_eq_true]
  refine forall₂_congr fun flight _ => ?_
  cases flight.stage with
  | none => exact ⟨fun _ => nofun, fun _ => rfl⟩
  | some stage => simp

/-- An exchange may go on, or be dropped, as long as its pool stays alike and it takes no channel
that is closed. -/
theorem Sound.place (sound : Sound traffic) {index : Nat} {id : UInt16} {stage : Stage C}
    {next : Option (Stage C)} {pool : Pool C}
    (present : traffic.flights[index]? = some ⟨id, some stage⟩) (alike : traffic.pool.Alike pool)
    (silent : traffic.pool.channelOpen = false → stage.hasChannel = false →
      ∀ after, next = some after → after.hasChannel = false)
    (live : (∀ read, stage ≠ .streaming (.finished read)) →
      ∀ read, next ≠ some (.streaming (.finished read))) :
    Sound (traffic.place index next pool) where
  marked shut := alike.closed.trans (sound.marked (alike.tableClosed.symm.trans shut))
  dropped gone := alike.tableClosed.trans (sound.dropped (alike.channelOpen.symm.trans gone))
  silent gone flight member last there := by
    have shut := alike.channelOpen.symm.trans gone
    rw [flights_place present] at member
    rcases List.mem_or_eq_of_mem_set member with old | rfl
    · exact sound.silent shut flight old last there
    · exact silent shut (sound.silent shut _ (List.mem_of_getElem? present) stage rfl) last there
  live flight member := by
    rw [flights_place present] at member
    rcases List.mem_or_eq_of_mem_set member with old | rfl
    · exact sound.live flight old
    · exact live fun read same =>
        sound.live _ (List.mem_of_getElem? present) read (congrArg some same)

/-- Every move keeps a pool's traffic sound. Closing comes in its order, an exchange that begins has
no channel yet, and one that goes on takes none that is closed and is not left on a connection that
has come to its end. -/
theorem Sound.move (sound : Sound traffic) {next : Move C}
    (moved : traffic.move? next = some after) :
    Sound after := by
  cases next with
  | start query =>
    obtain rfl := Option.some.inj moved
    have waits : (traffic.pool.start query).hasChannel = false := by
      rcases traffic.pool.start_cases query with ⟨-, begun⟩ | ⟨-, -, begun⟩ | ⟨-, -, begun⟩ <;>
        rw [begun] <;> rfl
    constructor
    case marked => exact sound.marked
    case dropped => exact sound.dropped
    case silent =>
      refine fun gone => List.forall_mem_append.mpr
        ⟨sound.silent gone, List.forall_mem_singleton.mpr ?_⟩
      rintro stage ⟨⟩
      exact waits
    case live =>
      refine List.forall_mem_append.mpr
        ⟨sound.live, List.forall_mem_singleton.mpr fun read same => ?_⟩
      exact Pool.start_live traffic.pool query read (Option.some.inj same)
  | advance index event =>
    obtain ⟨id, stage, present, -, rfl⟩ := move?_advance moved
    refine sound.place present (traffic.pool.alike_step id stage event) ?_ ?_
    · rintro gone free _ ⟨⟩
      exact Pool.hasChannel_step gone id free event
    · exact fun live read same => Pool.step_live live event read (Option.some.inj same)
  | abandon index =>
    obtain ⟨id, stage, present, -, rfl⟩ := move?_abandon moved
    exact sound.place present (traffic.pool.alike_drop stage) (fun _ _ _ => nofun) fun _ _ => nofun
  | close part =>
    cases part with
    | mark =>
      obtain rfl := Option.some.inj moved
      exact { sound with marked := fun _ => rfl }
    | connections =>
      obtain ⟨marked, rfl⟩ := move?_close_connections moved
      exact { sound with marked := fun _ => marked, dropped := fun _ => rfl }
    | channel =>
      obtain ⟨dropped, free, rfl⟩ := move?_close_channel moved
      exact
        { sound with
          dropped := fun _ => dropped
          silent := fun _ => (channelFree_iff traffic).mp free }

/-- By induction, a run keeps a pool's traffic sound. -/
theorem Sound.run (sound : Sound before) {moves : List (Move C)}
    (ran : before.run? moves = some after) :
    Sound after :=
  run_preserves ran (fun moved sound => sound.move moved) sound

/-- The events that are still ahead of the exchanges, at most. -/
def ahead (traffic : Traffic C) : Nat :=
  (traffic.flights.filterMap fun flight => flight.stage.map Stage.ahead).sum

/-- What is ahead of all the exchanges changes as it does for the one that goes on. -/
theorem ahead_place {index : Nat} {id : UInt16} {stage : Stage C}
    (present : traffic.flights[index]? = some ⟨id, some stage⟩) (next : Stage C) (pool : Pool C) :
    (traffic.place index (some next) pool).ahead + stage.ahead = next.ahead + traffic.ahead := by
  let own (flight : Flight C) : Option Nat := flight.stage.map Stage.ahead
  have before := (perm_filterMap_eraseIdx own present).sum_nat
  have after := (perm_filterMap_set own present ⟨id, some next⟩).sum_nat
  rw [← flights_place present (some next) pool] at after
  rw [List.sum_append] at before after
  change traffic.ahead = stage.ahead + 0 + _ at before
  change (traffic.place index (some next) pool).ahead = next.ahead + 0 + _ at after
  omega

/-- An event that is due can come, and then fewer are ahead. -/
theorem exists_move_of_due {index : Nat} {id : UInt16} {stage : Stage C} {event : ExchangeEvent C}
    (present : traffic.flights[index]? = some ⟨id, some stage⟩) (due : stage.due? = some event)
    (free : event = .turn → traffic.channelFree = true) :
    ∃ after, traffic.move? (.advance index event) = some after ∧ after.ahead < traffic.ahead := by
  obtain ⟨awaited, less⟩ := Pool.ahead_step traffic.pool id due
  have permitted : traffic.permits stage event = true := by
    refine Bool.and_eq_true_iff.mpr ⟨awaited, ?_⟩
    cases event with
    | turn => exact free rfl
    | _ => rfl
  refine ⟨traffic.place index (some (traffic.pool.step id stage event).1)
    (traffic.pool.step id stage event).2, ?_, ?_⟩
  · rw [move?, present]
    exact if_pos permitted
  · have count := ahead_place present (traffic.pool.step id stage event).1
      (traffic.pool.step id stage event).2
    omega

/-- As long as an exchange goes on, one of them has an event ahead that is due. The one that has the
channel comes first. -/
theorem exists_due_move (sound : Sound traffic) {flight : Flight C}
    (member : flight ∈ traffic.flights) (going : ¬ flight.IsOver) :
    ∃ move after, move.IsDue ∧ traffic.move? move = some after ∧ after.ahead < traffic.ahead := by
  have of_due {index : Nat} {id : UInt16} {stage : Stage C} {event : ExchangeEvent C}
      (present : traffic.flights[index]? = some ⟨id, some stage⟩) (due : stage.due? = some event)
      (free : event = .turn → traffic.channelFree = true) :
      ∃ move after, move.IsDue ∧ traffic.move? move = some after ∧ after.ahead < traffic.ahead := by
    obtain ⟨after, moved, less⟩ := exists_move_of_due present due free
    exact ⟨_, after, ⟨index, stage, event, due, rfl⟩, moved, less⟩
  by_cases free : traffic.channelFree = true
  · obtain ⟨id, stage⟩ := flight
    obtain ⟨index, present⟩ := List.mem_iff_getElem?.mp member
    cases stage with
    | none => exact absurd trivial going
    | some stage =>
      cases due : stage.due? with
      | some event => exact of_due present due fun _ => free
      | none =>
        rcases Stage.due?_eq_none due with ⟨result, rfl⟩ | ⟨read, rfl⟩
        · exact absurd ⟨result, rfl⟩ going
        · exact absurd rfl (sound.live _ member read)
  · -- The others may have to wait for the one that has the channel, which waits for nobody.
    rw [channelFree_iff] at free
    push Not at free
    obtain ⟨⟨id, _⟩, holder, stage, rfl, channel⟩ := free
    obtain ⟨index, present⟩ := List.mem_iff_getElem?.mp holder
    cases stage with
    | listening => exact of_due present rfl nofun
    | _ => exact absurd rfl channel

/-- When everything that is due has come, every exchange is over. -/
theorem exists_due_run (sound : Sound traffic) :
    ∃ moves after, (∀ move ∈ moves, move.IsDue) ∧ traffic.run? moves = some after ∧
      ∀ flight ∈ after.flights, flight.IsOver := by
  induction count : traffic.ahead using Nat.strongRecOn generalizing traffic with
  | _ _ ih =>
    by_cases all_over : ∀ flight ∈ traffic.flights, flight.IsOver
    · exact ⟨[], traffic, List.forall_mem_nil _, rfl, all_over⟩
    · push Not at all_over
      obtain ⟨flight, member, going⟩ := all_over
      obtain ⟨move, middle, due, moved, less⟩ := exists_due_move sound member going
      obtain ⟨others, after, dues, ran, all_over⟩ := ih _ (count ▸ less) (sound.move moved) rfl
      refine ⟨move :: others, after, List.forall_mem_cons.mpr ⟨due, dues⟩, ?_, all_over⟩
      rw [run?_cons, moved]
      exact ran

/-- When every exchange is over no reservation is held. -/
theorem held_eq_nil (all_over : ∀ flight ∈ traffic.flights, flight.IsOver) : traffic.held = [] := by
  refine List.filterMap_eq_nil_iff.mpr fun flight member => ?_
  have ended := all_over flight member
  obtain ⟨id, stage⟩ := flight
  cases stage with
  | none => rfl
  | some stage =>
    obtain ⟨result, rfl⟩ := ended
    rfl

end Traffic

end DnsForwarder.Resolver
