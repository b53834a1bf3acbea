import DnsForwarder.Proofs.Message.Reading
import DnsForwarder.Proofs.Resolver.SharedSlots
import DnsForwarder.Resolver.Traffic
import Mathlib.Data.List.Induction

/-!
# Exchanges with a server

An exchange asks by datagram and then, if that comes to nothing, over a connection; a query that
cannot be written is not asked at all. Whatever a server does, an answer has the identifier of the
query and was read from octets that came in during the exchange, and the connections are left alone
unless they are needed (`DnsForwarder.Resolver.Pool.complete_answers`).
-/

namespace DnsForwarder

open Decoder

/-- What was read begins with its identifier. -/
theorem Message.id_of_decode {bytes : Bytes} {message : Message} {id : UInt16}
    (read : decode bytes = .ok message) (carried : Resolver.Channel.carries id bytes = true) :
    message.id = id := by
  have front : word16 bytes.toArray 0 = .ok (id, 2) := by
    unfold Resolver.Channel.carries at carried
    split at carried
    next high low rest =>
      have reads : Reads word16 [high, low] (Bytes.toUInt16 high low) :=
        (reads_octet high).bind ((reads_octet low).give rfl)
      rw [← beq_iff_eq.mp carried]
      exact reads _ 0 ⟨[], rest, rfl, rfl⟩
    · exact nomatch carried
  obtain ⟨stop, begun⟩ := exists_decoder_of_decode read
  rw [decoder] at begun
  obtain ⟨first, next, begins, others⟩ := exists_of_bind begun
  rw [front] at begins
  obtain ⟨rfl, rfl⟩ := Prod.mk.inj (Except.ok.inj begins)
  refine (?_ : Gives _ fun message : Message => message.id = id) _ _ _ _ others
  refine gives_bind fun high => gives_bind fun low => ?_
  refine gives_bind fun questionCount => gives_bind fun answerCount =>
    gives_bind fun authorityCount => gives_bind fun additionalCount => ?_
  exact gives_bind fun questions => gives_bind fun answers => gives_bind fun authority =>
    gives_bind fun additional => gives_pure rfl

namespace Resolver

variable {C : Type}

/-- The octets that an event brings, as they are read. -/
def ExchangeEvent.octets? : ExchangeEvent C → Option Bytes
  | .datagram bytes => some (Channel.cut bytes)
  | .stream (.answered (.ok bytes)) => some bytes
  | _ => none

/-- The event of an exchange over a connection. -/
def ExchangeEvent.stream? : ExchangeEvent C → Option (StreamEvent C)
  | .stream event => some event
  | _ => none

namespace StreamStage

/-- Goes on with events one after the other. -/
def advance (server : Net.SocketAddress) :
    List (StreamEvent C) → StreamStage C × Slots C → StreamStage C × Slots C
  | [], state => state
  | event :: rest, (stage, table) => advance server rest (stage.step server table event)

/-- A whole exchange over a connection, with the events that come. -/
def exchange (server : Net.SocketAddress) (table : Slots C) (events : List (StreamEvent C)) :
    StreamStage C × Slots C :=
  advance server events (start server table)

/-- At its end an exchange on a connection takes no more events. -/
theorem step_finished (server : Net.SocketAddress) (table : Slots C) (result : Except Error Bytes)
    (event : StreamEvent C) :
    (finished result).step server table event = (finished result, table) := by
  cases event <;> rfl

/-- Octets come out of an exchange over a connection when they come in. -/
theorem step_reads {server : Net.SocketAddress} {stage : StreamStage C} {table : Slots C}
    {event : StreamEvent C} {bytes : Bytes}
    (ended : (stage.step server table event).1 = .finished (.ok bytes)) :
    stage = .finished (.ok bytes) ∨ stage.awaits event = true ∧ event = .answered (.ok bytes) := by
  cases event with
  | answered result =>
    cases stage with
    | pooled reservation connection =>
      cases result with
      | ok read =>
        obtain rfl := Except.ok.inj (finished.inj ended)
        exact .inr ⟨rfl, rfl⟩
      | error fault => exact nomatch ended
    | dialing reservation => exact nomatch ended
    | fresh reservation connection =>
      cases result with
      | ok read =>
        obtain rfl := Except.ok.inj (finished.inj ended)
        exact .inr ⟨rfl, rfl⟩
      | error fault => exact nomatch ended
    | finished read => exact .inl ended
  | connected result =>
    cases stage with
    | pooled reservation connection => exact nomatch ended
    | dialing reservation => cases result <;> exact nomatch ended
    | fresh reservation connection => exact nomatch ended
    | finished read => exact .inl ended

end StreamStage

/-- What asking by datagram comes to. -/
inductive Heard where
  /-- The channel is closed. -/
  | gone
  /-- A datagram with the identifier of the query is read. -/
  | datagram (bytes : Bytes)
  /-- Sending or reading fails, or the deadline is reached. -/
  | failed (fault : Net.Fault)

/-- There is no answer that is a whole message, and the channel is not closed. -/
def Heard.Unusable : Heard → Prop
  | .gone => False
  | .datagram bytes => ∀ message, Message.decode bytes = .ok message → message.truncated = true
  | .failed _ => True

namespace Pool

/-- What an event means to an exchange that asks by datagram: what is heard, or else whether the
query was sent. -/
def notice (pool : Pool C) (id : UInt16) : (sent : Bool) → ExchangeEvent C → Heard ⊕ Bool
  | false, .turn => if pool.channelOpen then .inr true else .inl .gone
  | true, .datagram bytes =>
    if Channel.carries id (Channel.cut bytes) then .inl (.datagram (Channel.cut bytes))
      else .inr true
  | true, .unheard fault => .inl (.failed fault)
  | sent, _ => .inr sent

/-- What asking by datagram comes to, and the events after it. -/
def hear (pool : Pool C) (id : UInt16) : (sent : Bool) → List (ExchangeEvent C) →
    Option (Heard × List (ExchangeEvent C))
  | _, [] => none
  | sent, event :: rest =>
    match pool.notice id sent event with
    | .inl heard => some (heard, rest)
    | .inr sent => hear pool id sent rest

/-- Octets are read in an exchange: they come with an event that it waits for. -/
def Receives (pool : Pool C) (query : Message) (events : List (ExchangeEvent C)) (bytes : Bytes) :
    Prop :=
  ∃ before event rest, events = before ++ event :: rest ∧
    (pool.exchange query before).1.awaits event = true ∧ event.octets? = some bytes

/-- Where an exchange stands after asking by datagram. -/
def afterHearing (pool : Pool C) (id : UInt16) : Heard → Stage C × Pool C
  | .gone => (.finished (.error pool.closedError), pool)
  | .datagram bytes =>
    match datagramAnswer? bytes with
    | some message => (.finished (.ok message), pool)
    | none => pool.fallBack id
  | .failed _ => pool.fallBack id

/-- A datagram is an answer if it decodes to a message that is not truncated. -/
theorem datagramAnswer?_eq_some_iff {bytes : Bytes} {message : Message} :
    datagramAnswer? bytes = some message ↔
      Message.decode bytes = .ok message ∧ message.truncated = false := by
  rw [datagramAnswer?]
  cases Message.decode bytes with
  | error fault => exact ⟨nofun, nofun⟩
  | ok read =>
    dsimp only
    constructor
    · intro some_message
      split at some_message
      · exact nomatch some_message
      next whole =>
        obtain rfl := Option.some.inj some_message
        exact ⟨rfl, Bool.eq_false_iff.mpr whole⟩
    · rintro ⟨same, whole⟩
      obtain rfl := Except.ok.inj same
      rw [whole]
      rfl

/-- A frame is an answer if it decodes to a message with the identifier of the query. -/
theorem frameAnswer_eq_ok_iff {server : Net.SocketAddress} {id : UInt16} {bytes : Bytes}
    {message : Message} :
    frameAnswer server id bytes = .ok message ↔ Message.decode bytes = .ok message ∧
    message.id = id := by
  rw [frameAnswer]
  cases Message.decode bytes with
  | error fault => exact ⟨nofun, nofun⟩
  | ok read =>
    constructor
    · intro answered
      dsimp only at answered
      split at answered
      next same =>
        obtain rfl := Except.ok.inj answered
        exact ⟨rfl, same⟩
      · exact nomatch answered
    · rintro ⟨same, own⟩
      obtain rfl := Except.ok.inj same
      exact if_pos own

/-- Where an exchange stands that asks by datagram. -/
def waiting (sent : Bool) : Stage C := if sent then .listening else .queued

variable {pool : Pool C} {id : UInt16} {query answer : Message}

/-- An exchange on the channel notices an event, and goes on with what it heard or waits on. -/
theorem step_waiting (sent : Bool) (event : ExchangeEvent C) :
    pool.step id (waiting sent) event =
      match pool.notice id sent event with
      | .inl heard => pool.afterHearing id heard
      | .inr sent => (waiting sent, pool) := by
  cases sent with
  | false =>
    cases event with
    | turn =>
      change (if pool.channelOpen then _ else _) = _
      rw [notice]
      cases pool.channelOpen <;> rfl
    | datagram bytes => rfl
    | unheard fault => rfl
    | stream event => rfl
  | true =>
    cases event with
    | datagram bytes =>
      change (if Channel.carries id (Channel.cut bytes) then _ else _) = _
      rw [notice]
      cases Channel.carries id (Channel.cut bytes) <;> rfl
    | turn => rfl
    | unheard fault => rfl
    | stream event => rfl

/-- An exchange on the channel waits for what it hears, and goes on from there with the events that
are left. -/
theorem advance_waiting {sent : Bool} {events rest : List (ExchangeEvent C)} {heard : Heard}
    (found : pool.hear id sent events = some (heard, rest)) :
    advance id events (waiting sent, pool) = advance id rest (pool.afterHearing id heard) := by
  induction events generalizing sent with
  | nil => exact nomatch found
  | cons event others ih =>
    have stepped : advance id (event :: others) (waiting sent, pool) =
        advance id others (pool.step id (waiting sent) event) := rfl
    rw [stepped, step_waiting]
    rw [hear] at found
    cases noticed : pool.notice id sent event with
    | inl now =>
      rw [noticed] at found
      obtain ⟨rfl, rfl⟩ := Prod.mk.inj (Option.some.inj found)
      rfl
    | inr sent =>
      rw [noticed] at found
      exact ih found

/-- As long as nothing is heard, nothing is done. -/
theorem advance_waiting_none {sent : Bool} {events : List (ExchangeEvent C)}
    (silent : pool.hear id sent events = none) :
    (advance id events (waiting sent, pool)).2 = pool := by
  induction events generalizing sent with
  | nil => rfl
  | cons event others ih =>
    have stepped : advance id (event :: others) (waiting sent, pool) =
        advance id others (pool.step id (waiting sent) event) := rfl
    rw [stepped, step_waiting]
    rw [hear] at silent
    cases noticed : pool.notice id sent event with
    | inl now =>
      rw [noticed] at silent
      exact nomatch silent
    | inr sent =>
      rw [noticed] at silent
      exact ih silent

/-- What is heard is the same if more events come later. -/
theorem hear_append {sent : Bool} {events rest : List (ExchangeEvent C)} {heard : Heard}
    (found : pool.hear id sent events = some (heard, rest)) (more : List (ExchangeEvent C)) :
    pool.hear id sent (events ++ more) = some (heard, rest ++ more) := by
  induction events generalizing sent with
  | nil => exact nomatch found
  | cons event others ih =>
    rw [hear] at found
    rw [List.cons_append, hear]
    cases noticed : pool.notice id sent event with
    | inl now =>
      rw [noticed] at found
      obtain ⟨rfl, rfl⟩ := Prod.mk.inj (Option.some.inj found)
      rfl
    | inr sent =>
      rw [noticed] at found
      exact ih found

/-- Something is heard at the deadline at the latest. -/
theorem exists_hear (pool : Pool C) (id : UInt16) (sent : Bool) (events : List (ExchangeEvent C)) :
    ∃ heard rest, pool.hear id sent (events ++ lateEvents) = some (heard, rest) := by
  induction events generalizing sent with
  | nil =>
    cases sent with
    | false =>
      cases present : pool.channelOpen with
      | false => exact ⟨.gone, _, by simp [lateEvents, hear, notice, present]; rfl⟩
      | true => exact ⟨.failed .late, _, by simp [lateEvents, hear, notice, present]; rfl⟩
    | true => exact ⟨.failed .late, _, rfl⟩
  | cons event others ih =>
    rw [List.cons_append, hear]
    cases pool.notice id sent event with
    | inl heard => exact ⟨heard, _, rfl⟩
    | inr sent => exact ih sent

/-- The exchange of a query that can be written begins by waiting for its turn. -/
theorem exchange_of_encodes (opened : pool.closed = false) {sent : Bytes}
    (encodes : query.encode? = some sent) (events : List (ExchangeEvent C)) :
    pool.exchange query events = advance query.id events (waiting false, pool) := by
  rw [exchange, start, opened, encodes]
  rfl

/-- Until something is heard nothing is done. -/
theorem exchange_within (opened : pool.closed = false) {sent : Bytes}
    (encodes : query.encode? = some sent) {events rest : List (ExchangeEvent C)}
    {heard : Heard} (found : pool.hear query.id false events = some (heard, rest))
    {before : List (ExchangeEvent C)} (begins : before <+: events) :
    (pool.exchange query before).2 =
      match pool.hear query.id false before with
      | none => pool
      | some (_, left) => (advance query.id left (pool.afterHearing query.id heard)).2 := by
  obtain ⟨more, rfl⟩ := begins
  rw [exchange_of_encodes opened encodes]
  cases early : pool.hear query.id false before with
  | none => exact advance_waiting_none early
  | some pair =>
    obtain ⟨now, left⟩ := pair
    rw [hear_append early more] at found
    obtain ⟨rfl, -⟩ := Prod.mk.inj (Option.some.inj found)
    rw [advance_waiting early]

/-- An exchange over a connection goes on as such, also when it has come to its end. -/
theorem step_conclude (pool : Pool C) (id : UInt16) (stage : StreamStage C)
    (event : ExchangeEvent C) :
    pool.step id (conclude pool.server id stage) event =
      match event.stream? with
      | some event =>
        let stepped := stage.step pool.server pool.table event
        (conclude pool.server id stepped.1, { pool with table := stepped.2 })
      | none => (conclude pool.server id stage, pool) := by
  cases event with
  | stream event =>
    cases stage with
    | finished result =>
      dsimp only [ExchangeEvent.stream?]
      rw [StreamStage.step_finished]
      cases result <;> rfl
    | pooled reservation connection => rfl
    | dialing reservation => rfl
    | fresh reservation connection => rfl
  | turn | datagram bytes | unheard fault =>
    cases stage with
    | finished result => cases result <;> rfl
    | _ => rfl

/-- Until its connection ends, an exchange goes on as the connection does. -/
theorem advance_conclude (pool : Pool C) (id : UInt16) (events : List (ExchangeEvent C))
    (stage : StreamStage C) :
    advance id events (conclude pool.server id stage, pool) =
      let ended := StreamStage.advance pool.server (events.filterMap ExchangeEvent.stream?)
        (stage, pool.table)
      (conclude pool.server id ended.1, { pool with table := ended.2 }) := by
  induction events generalizing stage pool with
  | nil => rfl
  | cons event rest ih =>
    have stepped : advance id (event :: rest) (conclude pool.server id stage, pool) =
        advance id rest (pool.step id (conclude pool.server id stage) event) := rfl
    rw [stepped, step_conclude]
    cases now : event.stream? with
    | none =>
      rw [List.filterMap_cons_none now]
      exact ih pool stage
    | some event =>
      rw [List.filterMap_cons_some now]
      exact ih { pool with table := (stage.step pool.server pool.table event).2 } _

/-- An exchange that falls back goes on as an exchange on a connection of the table. -/
theorem advance_fallBack (pool : Pool C) (id : UInt16) (events : List (ExchangeEvent C)) :
    advance id events (pool.fallBack id) =
      let ended := StreamStage.exchange pool.server pool.table
        (events.filterMap ExchangeEvent.stream?)
      (conclude pool.server id ended.1, { pool with table := ended.2 }) :=
  advance_conclude { pool with table := (StreamStage.start pool.server pool.table).2 } id events _

/-- An exchange ends on a connection with what the frame that was read is as an answer. -/
theorem eq_finished_of_conclude {server : Net.SocketAddress} {id : UInt16} {stage : StreamStage C}
    {result : Except Error Message} (ended : conclude server id stage = .finished result) :
    ∃ read, stage = .finished read ∧ result = read.bind (frameAnswer server id) := by
  cases stage with
  | finished read =>
    cases read with
    | ok bytes => exact ⟨_, rfl, (Stage.finished.inj ended).symm⟩
    | error error => exact ⟨_, rfl, (Stage.finished.inj ended).symm⟩
  | pooled reservation connection => exact nomatch ended
  | dialing reservation => exact nomatch ended
  | fresh reservation connection => exact nomatch ended

/-- Falling back is not yet an answer. -/
theorem fallBack_ne_answer (pool : Pool C) (id : UInt16) (answer : Message) :
    (pool.fallBack id).1 ≠ .finished (.ok answer) := by
  intro ended
  change conclude pool.server id (StreamStage.start pool.server pool.table).1 = _ at ended
  obtain ⟨read, finished, same⟩ := eq_finished_of_conclude ended
  obtain ⟨reason, -, refused⟩ | ⟨reservation, -, holds, -⟩ :=
    StreamStage.start_cases pool.table pool.server
  · rw [refused] at finished
    obtain rfl := StreamStage.finished.inj finished
    exact nomatch same
  · rw [finished] at holds
    exact nomatch holds

/-- What is heard on the channel ends an exchange with an answer only as a datagram that decodes to
it. -/
theorem datagram_of_afterHearing {heard : Heard}
    (ended : (pool.afterHearing id heard).1 = .finished (.ok answer)) :
    ∃ bytes, heard = .datagram bytes ∧ Message.decode bytes = .ok answer := by
  cases heard with
  | gone => exact nomatch ended
  | failed fault => exact absurd ended (fallBack_ne_answer pool id answer)
  | datagram bytes =>
    rw [afterHearing] at ended
    cases read : datagramAnswer? bytes with
    | none =>
      rw [read] at ended
      exact absurd ended (fallBack_ne_answer pool id answer)
    | some message =>
      rw [read] at ended
      obtain rfl := Except.ok.inj (Stage.finished.inj ended)
      exact ⟨bytes, rfl, (datagramAnswer?_eq_some_iff.mp read).1⟩

/-- A datagram that is heard came with an event that was waited for, and carries the identifier of
the query. -/
theorem octets?_of_notice {sent : Bool} {event : ExchangeEvent C} {bytes : Bytes}
    (noticed : pool.notice id sent event = .inl (.datagram bytes)) :
    (waiting sent : Stage C).awaits event = true ∧ event.octets? = some bytes ∧
      Channel.carries id bytes = true := by
  cases sent with
  | false =>
    cases event with
    | turn =>
      rw [notice] at noticed
      split at noticed <;> exact nomatch noticed
    | datagram read => exact nomatch noticed
    | unheard fault => exact nomatch noticed
    | stream event => exact nomatch noticed
  | true =>
    cases event with
    | turn => exact nomatch noticed
    | datagram read =>
      rw [notice] at noticed
      split at noticed
      next carried =>
        obtain rfl := Heard.datagram.inj (Sum.inl.inj noticed)
        exact ⟨rfl, rfl, carried⟩
      · exact nomatch noticed
    | unheard fault => exact nomatch noticed
    | stream event => exact nomatch noticed

/-- A step on the channel that ends in an answer takes an event with its octets, and the answer has
the identifier of the query. -/
theorem step_waiting_answers {sent : Bool} {event : ExchangeEvent C}
    (ended : (pool.step id (waiting sent) event).1 = .finished (.ok answer)) :
    (waiting sent : Stage C).awaits event = true ∧ answer.id = id ∧
      ∃ bytes, event.octets? = some bytes ∧ Message.decode bytes = .ok answer := by
  rw [step_waiting] at ended
  cases noticed : pool.notice id sent event with
  | inl heard =>
    rw [noticed] at ended
    obtain ⟨bytes, rfl, read⟩ := datagram_of_afterHearing ended
    obtain ⟨awaits, came, carried⟩ := octets?_of_notice noticed
    exact ⟨awaits, Message.id_of_decode read carried, bytes, came, read⟩
  | inr sent =>
    rw [noticed] at ended
    cases sent <;> exact nomatch ended

/-- An answer is read from octets when they come in. -/
theorem step_answers {stage : Stage C} {event : ExchangeEvent C}
    (live : ∀ read, stage ≠ .streaming (.finished read))
    (ended : (pool.step id stage event).1 = .finished (.ok answer)) :
    stage = .finished (.ok answer) ∨ stage.awaits event = true ∧ answer.id = id ∧
      ∃ bytes, event.octets? = some bytes ∧ Message.decode bytes = .ok answer := by
  cases stage with
  | queued =>
    change (pool.step id (waiting false) event).1 = _ at ended
    exact .inr (step_waiting_answers ended)
  | listening =>
    change (pool.step id (waiting true) event).1 = _ at ended
    exact .inr (step_waiting_answers ended)
  | streaming stage =>
    cases event with
    | stream event =>
      obtain ⟨read, finished, same⟩ := eq_finished_of_conclude ended
      cases read with
      | error error => exact nomatch same
      | ok bytes =>
        obtain ⟨closing, -⟩ | ⟨awaits, rfl⟩ := StreamStage.step_reads finished
        · exact absurd rfl (live _)
        · obtain ⟨decoded, own⟩ := frameAnswer_eq_ok_iff.mp same.symm
          exact .inr ⟨awaits, own, bytes, rfl, decoded⟩
    | turn => exact nomatch ended
    | datagram bytes => exact nomatch ended
    | unheard fault => exact nomatch ended
  | finished result =>
    have same : (pool.step id (.finished result) event).1 = .finished result := by
      cases event <;> rfl
    exact .inl (same ▸ ended)

/-- No exchange is left on a connection that has come to its end. -/
theorem conclude_ne_streaming_finished (server : Net.SocketAddress) (id : UInt16)
    (stage : StreamStage C)
    (read : Except Error Bytes) : conclude server id stage ≠ .streaming (.finished read) := by
  cases stage with
  | finished result => cases result <;> exact nofun
  | pooled reservation connection => exact nofun
  | dialing reservation => exact nofun
  | fresh reservation connection => exact nofun

/-- A step does not leave an exchange on a connection that has come to its end. -/
theorem step_live {stage : Stage C} (live : ∀ read, stage ≠ .streaming (.finished read))
    (event : ExchangeEvent C) (read : Except Error Bytes) :
    (pool.step id stage event).1 ≠ .streaming (.finished read) := by
  unfold step
  split
  · split <;> exact nofun
  · dsimp only
    split
    · split
      · exact nofun
      · exact conclude_ne_streaming_finished _ _ _ _
    · exact nofun
  · exact conclude_ne_streaming_finished _ _ _ _
  · exact conclude_ne_streaming_finished _ _ _ _
  · exact live read

/-- The last event of an exchange is taken by the stage that the others lead to. -/
theorem exchange_append_singleton (pool : Pool C) (query : Message)
    (events : List (ExchangeEvent C)) (event : ExchangeEvent C) :
    pool.exchange query (events ++ [event]) =
      (pool.exchange query events).2.step query.id (pool.exchange query events).1 event := by
  rw [exchange_append]
  rfl

/-- No exchange begins with an exchange over a connection. -/
theorem start_live (pool : Pool C) (query : Message) (read : Except Error Bytes) :
    pool.start query ≠ .streaming (.finished read) := by
  rcases pool.start_cases query with ⟨-, begun⟩ | ⟨-, -, begun⟩ | ⟨-, -, begun⟩ <;>
    rw [begun] <;> exact nofun

/-- An exchange over a connection that has come to its end is the end of the whole exchange. -/
theorem exchange_live (pool : Pool C) (query : Message) (events : List (ExchangeEvent C))
    (read : Except Error Bytes) :
    (pool.exchange query events).1 ≠ .streaming (.finished read) := by
  induction events using List.reverseRecOn generalizing read with
  | nil => exact start_live pool query read
  | append_singleton events event ih =>
    rw [exchange_append_singleton]
    exact step_live ih event read

/-- Octets that were received stay received when more events come. -/
theorem Receives.append {events : List (ExchangeEvent C)} {bytes : Bytes}
    (receives : pool.Receives query events bytes) (more : List (ExchangeEvent C)) :
    pool.Receives query (events ++ more) bytes := by
  obtain ⟨before, event, rest, rfl, waited, came⟩ := receives
  exact ⟨before, event, rest ++ more, by simp only [List.append_assoc, List.cons_append],
    waited, came⟩

/-- Nothing is received with events that bring no octets. -/
theorem Receives.of_append {events more : List (ExchangeEvent C)} {bytes : Bytes}
    (receives : pool.Receives query (events ++ more) bytes)
    (silent : ∀ event ∈ more, event.octets? = none) :
    pool.Receives query events bytes := by
  obtain ⟨before, event, rest, split, waited, came⟩ := receives
  have brings : event ∉ more := fun member => nomatch (silent event member).symm.trans came
  obtain ⟨middle, rfl, rfl⟩ | ⟨middle, rfl, same⟩ := List.append_eq_append_iff.mp split
  · exact absurd (List.mem_append_right _ List.mem_cons_self) brings
  · cases middle with
    | nil =>
      rw [List.nil_append] at same
      exact absurd (same ▸ List.mem_cons_self) brings
    | cons first others =>
      obtain ⟨rfl, -⟩ := List.cons.inj same
      exact ⟨before, event, others, rfl, waited, came⟩

/-- The events that fill up an exchange in the end carry no octets. -/
theorem octets?_of_lateEvents :
    ∀ event ∈ (lateEvents : List (ExchangeEvent C)), event.octets? = none := by
  intro event member
  simp only [lateEvents, List.mem_cons, List.not_mem_nil, or_false] at member
  obtain rfl | rfl | rfl | rfl := member <;> rfl

/-- An answer has the identifier of the query and was read from octets that came in. -/
theorem exists_receives {events : List (ExchangeEvent C)}
    (ended : (pool.exchange query events).1 = .finished (.ok answer)) :
    answer.id = query.id ∧
      ∃ bytes, pool.Receives query events bytes ∧ Message.decode bytes = .ok answer := by
  induction events using List.reverseRecOn with
  | nil =>
    change pool.start query = _ at ended
    rcases pool.start_cases query with ⟨-, begun⟩ | ⟨-, -, begun⟩ | ⟨-, -, begun⟩ <;>
      rw [begun] at ended <;> exact nomatch ended
  | append_singleton events event ih =>
    rw [exchange_append_singleton] at ended
    obtain earlier | ⟨waited, own, bytes, came, read⟩ :=
      step_answers (exchange_live pool query events) ended
    · obtain ⟨own, bytes, receives, read⟩ := ih earlier
      exact ⟨own, bytes, receives.append [event], read⟩
    · exact ⟨own, bytes, ⟨events, event, [], rfl, waited, came⟩, read⟩

/-- An answer has the identifier of its query and was received. -/
theorem exists_receives_of_complete {events : List (ExchangeEvent C)}
    (answered : (pool.complete query events).1 = .ok answer) :
    answer.id = query.id ∧
      ∃ bytes, pool.Receives query events bytes ∧ Message.decode bytes = .ok answer := by
  have ended : (pool.exchange query (events ++ lateEvents)).1 = .finished (.ok answer) := by
    rw [exchange_append_lateEvents, answered]
  obtain ⟨own, bytes, receives, read⟩ := exists_receives ended
  exact ⟨own, bytes, receives.of_append octets?_of_lateEvents, read⟩

/-- An exchange that heard nothing of use falls back. -/
theorem afterHearing_of_unusable {heard : Heard} (unusable : heard.Unusable) (pool : Pool C)
    (id : UInt16) : pool.afterHearing id heard = pool.fallBack id := by
  cases heard with
  | gone => exact unusable.elim
  | failed fault => rfl
  | datagram bytes =>
    rw [Pool.afterHearing]
    cases read : datagramAnswer? bytes with
    | none => rfl
    | some message =>
      obtain ⟨decoded, uncut⟩ := datagramAnswer?_eq_some_iff.mp read
      exact absurd (unusable message decoded) (Bool.eq_false_iff.mp uncut)

/-- The pool stays as it is all the time. -/
def Untouched (pool : Pool C) (query : Message) (events : List (ExchangeEvent C)) : Prop :=
  ∀ before, before <+: events → (pool.exchange query before).2 = pool

/-- The exchange is over before anything is asked, whatever would come. -/
def FailsAtOnce (pool : Pool C) (query : Message) (error : Error) : Prop :=
  ∀ events, pool.exchange query events = (.finished (.error error), pool)

/-- All that is done to the pool, at any time, is one exchange over a connection, which begins when
something is heard. What it reads is the result if it is an answer to the query, and so is its
error. -/
def FallsBack (pool : Pool C) (query : Message) (events rest : List (ExchangeEvent C))
    (result : Except Error Message) : Prop :=
  let asked (events : List (ExchangeEvent C)) :=
    StreamStage.exchange pool.server pool.table (events.filterMap ExchangeEvent.stream?)
  (∀ before, before <+: events → (pool.exchange query before).2 =
    match pool.hear query.id false before with
    | none => pool
    | some (_, left) => { pool with table := (asked left).2 }) ∧
  ∃ read, (asked rest).1 = .finished read ∧
    (∀ error, read = .error error → result = .error error) ∧
    ∀ bytes, read = .ok bytes → result = frameAnswer pool.server query.id bytes ∧
      ∀ answer, result = .ok answer ↔ Message.decode bytes = .ok answer ∧ answer.id = query.id

/-- A query with too many octets is not asked. -/
theorem failsAtOnce_of_lt (opened : pool.closed = false)
    (long : Message.maxLength < query.octets.length) :
    pool.FailsAtOnce query (.invalidMessage Message.tooLong) := by
  intro events
  rw [exchange, start, opened, query.encode?_of_lt long]
  exact advance_finished query.id events pool _

/-- On a pool that is open, whatever comes and when it comes, an answer has the identifier of the
query, and octets that spell it came in while the exchange waited for them. A query with too many
octets is the error, before anything is asked. For any other something is heard on the channel, at
the deadline at the latest. A whole message with the identifier is the answer, and the pool stays as
it is. A failure, and an answer that is cut or is not a message, lead to one exchange over a
connection, and what that reads is the answer, if it is one to the query. A channel that was closed
meanwhile is the error, and the pool stays as it is. -/
theorem complete_answers {pool : Pool C} (opened : pool.closed = false) (query : Message)
    (events : List (ExchangeEvent C)) :
    let outcome := pool.complete query events
    let whole := events ++ lateEvents
    (∀ answer, outcome.1 = .ok answer → answer.id = query.id ∧
      ∃ bytes, pool.Receives query events bytes ∧ Message.decode bytes = .ok answer) ∧
    (pool.exchange query whole).2 = outcome.2 ∧
    (Message.maxLength < query.octets.length →
      outcome.1 = .error (.invalidMessage Message.tooLong) ∧
        pool.FailsAtOnce query (.invalidMessage Message.tooLong)) ∧
    (query.octets.length ≤ Message.maxLength →
      ∃ heard rest, pool.hear query.id false whole = some (heard, rest) ∧
        (∀ bytes answer, heard = .datagram bytes → Message.decode bytes = .ok answer →
          answer.truncated = false → outcome.1 = .ok answer ∧ pool.Untouched query whole) ∧
        (heard.Unusable → pool.FallsBack query whole rest outcome.1) ∧
        (heard = .gone → outcome.1 = .error pool.closedError ∧ pool.Untouched query whole)) := by
  intro outcome whole
  have ended : pool.exchange query whole = (.finished outcome.1, outcome.2) :=
    exchange_append_lateEvents pool query events
  refine ⟨fun _ => exists_receives_of_complete, congrArg Prod.snd ended, fun long => ?_,
    fun fits => ?_⟩
  · have fails := failsAtOnce_of_lt opened long
    rw [fails whole] at ended
    exact ⟨(Stage.finished.inj (Prod.mk.inj ended).1).symm, fails⟩
  have encodes := query.encode?_of_le fits
  -- What is heard is the only turning point: until then the pool waits, and after it an answer, a
  -- fall back or the closed channel settles the rest.
  obtain ⟨heard, rest, found⟩ := exists_hear pool query.id false events
  have goes : (.finished outcome.1, outcome.2) =
      advance query.id rest (pool.afterHearing query.id heard) := by
    rw [← ended, ← advance_waiting found, exchange_of_encodes opened encodes]
  have ends {result : Except Error Message}
      (settled : pool.afterHearing query.id heard = (.finished result, pool)) :
      outcome.1 = result ∧ pool.Untouched query whole := by
    rw [settled, advance_finished] at goes
    refine ⟨Stage.finished.inj (Prod.mk.inj goes).1, fun before begins => ?_⟩
    rw [exchange_within opened encodes found begins, settled]
    cases pool.hear query.id false before with
    | none => rfl
    | some pair => exact congrArg Prod.snd (advance_finished query.id pair.2 pool result)
  refine ⟨heard, rest, found, ?_, ?_, ?_⟩
  · rintro bytes answer rfl read uncut
    refine ends ?_
    rw [afterHearing, datagramAnswer?_eq_some_iff.mpr ⟨read, uncut⟩]
  · intro unusable
    have falls := afterHearing_of_unusable unusable pool query.id
    rw [falls, advance_fallBack] at goes
    obtain ⟨read, finished, result⟩ := eq_finished_of_conclude (Prod.mk.inj goes).1.symm
    refine ⟨fun before begins => ?_, read, finished, ?_, ?_⟩
    · rw [exchange_within opened encodes found begins, falls]
      cases pool.hear query.id false before with
      | none => rfl
      | some pair => exact congrArg Prod.snd (advance_fallBack pool query.id pair.2)
    · rintro error rfl
      exact result
    · rintro bytes rfl
      exact ⟨result, fun answer => result ▸ frameAnswer_eq_ok_iff⟩
  · rintro rfl
    exact ends rfl

/-- An answer that is cut is asked for again over a connection. -/
theorem complete_answers_cut :
    let pool : Pool Nat := { server := .v4 .loopback 53, table := .empty Nat 1 }
    let query : Message := { id := 7, questions := [⟨.root, RecordType.ns, classInternet⟩] }
    let answer : Message := { query with response := true, responseCode := ResponseCode.refused }
    let cut : Message := { answer with truncated := true }
    let events := [.turn, .datagram cut.octets, .stream (.connected (.ok 0)),
      .stream (.answered (.ok answer.octets))]
    pool.closed = false ∧ (pool.complete query events).1 = .ok answer ∧ answer.id = query.id ∧
      ∃ bytes, pool.Receives query events bytes ∧ Message.decode bytes = .ok answer := by
  intro pool query answer cut events
  have answered : (pool.complete query events).1 = .ok answer := by decide +kernel
  exact ⟨rfl, answered, (complete_answers rfl query events).1 answer answered⟩

end Pool

end Resolver

end DnsForwarder
