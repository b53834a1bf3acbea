import DnsForwarder.Proofs.Resolver.Attempts
import Mathlib.Data.List.Induction

/-!
# The health of a resolver

Exchanges and probes put entries into the history of a resolver: an attempt that succeeded or
failed, or a round of attempts that was exhausted. Whatever the order of the entries, the health is
told by how many rounds were exhausted since the latest success, and the counts and the latest error
by the attempts (`DnsForwarder.Resolver.History.health_follows_entries`). Whichever dialogues put
their requests to a session, in whatever order, each history is the one that its entries make
(`DnsForwarder.Resolver.Session.history_serve`).
-/

namespace DnsForwarder.Resolver

/-- What is put into the history of a resolver. -/
inductive Entry where
  | success (latency : Nat) (now : Int)
  | failure (error : Error)
  | exhaustion

namespace Entry

/-- The entry is an answer. -/
def isSuccess : Entry → Bool
  | success .. => true
  | _ => false

/-- The entry is a failed attempt. -/
def isFailure : Entry → Bool
  | failure _ => true
  | _ => false

/-- The entry is an exhausted round. -/
def isExhaustion : Entry → Bool
  | exhaustion => true
  | _ => false

/-- For an attempt, the error that it ended with, or none if it succeeded. -/
def attempt? : Entry → Option (Option Error)
  | success .. => some none
  | failure error => some (some error)
  | exhaustion => none

end Entry

namespace History

/-- Puts an entry into a history. -/
def enter (downAfter : UInt32) (history : History) : Entry → History
  | .success latency now => history.succeed latency now
  | .failure error => history.fail error
  | .exhaustion => history.exhaust downAfter

/-- Puts entries into a history, one after the other. -/
def enterAll (downAfter : UInt32) (history : History) (entries : List Entry) : History :=
  entries.foldl (enter downAfter) history

/-- How many rounds were exhausted since the latest success, or since the start. -/
def vainRounds (entries : List Entry) : Nat :=
  (entries.reverse.takeWhile (!·.isSuccess)).countP Entry.isExhaustion

/-- After an answer no round was in vain. -/
@[simp] theorem vainRounds_success (entries : List Entry) (latency : Nat) (now : Int) :
    vainRounds (entries ++ [.success latency now]) = 0 := by
  rw [vainRounds, List.reverse_concat, List.takeWhile_cons_of_neg Bool.false_ne_true,
    List.countP_nil]

/-- A failed attempt is not yet a round in vain. -/
@[simp] theorem vainRounds_failure (entries : List Entry) (error : Error) :
    vainRounds (entries ++ [.failure error]) = vainRounds entries := by
  rw [vainRounds, List.reverse_concat, List.takeWhile_cons_of_pos rfl,
    List.countP_cons_of_neg Bool.false_ne_true, vainRounds]

/-- An exhausted round is one more in vain. -/
@[simp] theorem vainRounds_exhaustion (entries : List Entry) :
    vainRounds (entries ++ [.exhaustion]) = vainRounds entries + 1 := by
  rw [vainRounds, List.reverse_concat, List.takeWhile_cons_of_pos rfl, List.countP_cons_of_pos rfl,
    vainRounds]

/-- There are no more rounds in vain than entries. -/
theorem vainRounds_le_length (entries : List Entry) : vainRounds entries ≤ entries.length :=
  calc vainRounds entries
    _ ≤ (entries.reverse.takeWhile (!·.isSuccess)).length := List.countP_le_length
    _ ≤ entries.reverse.length := (List.takeWhile_sublist _).length_le
    _ = entries.length := List.length_reverse

/-- Without a success there are no fewer exhausted rounds than before. -/
theorem vainRounds_le (entries : List Entry) {entry : Entry} (vain : entry.isSuccess = false) :
    vainRounds entries ≤ vainRounds (entries ++ [entry]) := by
  cases entry with
  | success latency now => exact nomatch vain
  | failure error => exact Nat.le_of_eq (vainRounds_failure entries error).symm
  | exhaustion => exact (vainRounds_exhaustion entries).symm ▸ Nat.le_succ _

section Enter

variable (downAfter : UInt32) (history : History) (entry : Entry)

/-- An entry counts among the successes if it is one. -/
theorem enter_successes : (history.enter downAfter entry).successes =
    history.successes + .ofNat ([entry].countP Entry.isSuccess) := by
  cases entry with
  | success latency now => rfl
  | failure error => exact (UInt64.add_zero _).symm
  | exhaustion => exact (UInt64.add_zero _).symm

/-- An entry counts among the failures if it is one. -/
theorem enter_failures : (history.enter downAfter entry).failures =
    history.failures + .ofNat ([entry].countP Entry.isFailure) := by
  cases entry with
  | success latency now => exact (UInt64.add_zero _).symm
  | failure error => rfl
  | exhaustion => exact (UInt64.add_zero _).symm

/-- The last error is that of the last attempt, and none after an answer. -/
theorem enter_lastError : (history.enter downAfter entry).lastError =
    entry.attempt?.getD history.lastError := by
  cases entry <;> rfl

end Enter

/-- A history says what its entries were. The number of exhausted rounds is kept in a word, and the
health is that of the word. -/
structure Reflects (downAfter : UInt32) (entries : List Entry) (history : History) : Prop where
  rounds : history.exhaustedRounds = .ofNat (vainRounds entries)
  health : history.health =
    if vainRounds entries = 0 then .healthy else healthAfter history.exhaustedRounds downAfter
  successes : history.successes = .ofNat (entries.countP Entry.isSuccess)
  failures : history.failures = .ofNat (entries.countP Entry.isFailure)
  lastError : history.lastError = (entries.filterMap Entry.attempt?).getLast?.join

variable {downAfter : UInt32} {entries : List Entry} {history : History}

/-- An entry is reflected in the history that it goes into. -/
theorem Reflects.enter (reflects : Reflects downAfter entries history) (entry : Entry) :
    Reflects downAfter (entries ++ [entry]) (history.enter downAfter entry) where
  rounds := by
    cases entry with
    | success latency now => rw [vainRounds_success]; rfl
    | failure error => rw [vainRounds_failure]; exact reflects.rounds
    | exhaustion =>
      rw [vainRounds_exhaustion, UInt32.ofNat_add, ← reflects.rounds]
      rfl
  health := by
    cases entry with
    | success latency now => rw [vainRounds_success]; rfl
    | failure error => rw [vainRounds_failure]; exact reflects.health
    | exhaustion => rw [vainRounds_exhaustion, if_neg (Nat.succ_ne_zero _)]; rfl
  successes := by rw [enter_successes, List.countP_append, UInt64.ofNat_add, reflects.successes]
  failures := by rw [enter_failures, List.countP_append, UInt64.ofNat_add, reflects.failures]
  lastError := by
    rw [enter_lastError, List.filterMap_append, reflects.lastError]
    cases entry with
    | success latency now => exact (congrArg Option.join List.getLast?_concat).symm
    | failure error => exact (congrArg Option.join List.getLast?_concat).symm
    | exhaustion =>
      rw [show [Entry.exhaustion].filterMap Entry.attempt? = [] from rfl, List.append_nil]
      rfl

/-- By induction, a history reflects the entries that went into it from the start. -/
theorem reflects_enterAll (downAfter : UInt32) (entries : List Entry) :
    Reflects downAfter entries (enterAll downAfter {} entries) := by
  induction entries using List.reverseRecOn with
  | nil => exact ⟨rfl, rfl, rfl, rfl, rfl⟩
  | append_singleton entries last ih =>
    rw [enterAll, List.foldl_concat]
    exact ih.enter last

section Health

variable (reflects : Reflects downAfter entries history)
include reflects

/-- A resolver is healthy if no round since its last answer was in vain. -/
theorem Reflects.healthy_iff : history.health = .healthy ↔ vainRounds entries = 0 := by
  rw [reflects.health, healthAfter]
  split
  next none => exact iff_of_true rfl none
  next some => split <;> exact iff_of_false nofun some

/-- As long as the number of exhausted rounds fits a word, it tells whether a resolver is down. -/
theorem Reflects.down_iff (few : vainRounds entries < UInt32.size) :
    history.health = .down ↔ 0 < downAfter ∧ downAfter.toNat ≤ vainRounds entries := by
  have reached : downAfter ≤ history.exhaustedRounds ↔ downAfter.toNat ≤ vainRounds entries := by
    rw [UInt32.le_iff_toNat_le, reflects.rounds, UInt32.toNat_ofNat_of_lt' few]
  rw [reflects.health, healthAfter]
  split
  next none =>
    refine iff_of_false nofun ?_
    rintro ⟨positive, most⟩
    have counted : 0 < downAfter.toNat := UInt32.lt_iff_toNat_lt.mp positive
    omega
  next some =>
    rw [← reached]
    split
    next down => exact iff_of_true rfl down
    next up => exact iff_of_false nofun up

/-- A resolver is degraded if rounds were in vain, but not so many that it is down. -/
theorem Reflects.degraded_iff (few : vainRounds entries < UInt32.size) :
    history.health = .degraded ↔
      vainRounds entries ≠ 0 ∧ ¬ (0 < downAfter ∧ downAfter.toNat ≤ vainRounds entries) := by
  rw [← reflects.down_iff few, Ne, ← reflects.healthy_iff]
  cases history.health <;> simp

end Health

/-- The health follows from how many rounds were exhausted since the latest success, whatever else
happened; a resolver that is down stays so until a success makes it healthy. The attempts are
counted as words, and the latest one tells the latest error. -/
theorem health_follows_entries (downAfter : UInt32) (entries : List Entry)
    (few : ∀ prior, prior <+: entries → vainRounds prior < UInt32.size) :
    let after := enterAll downAfter {}
    let history := after entries
    let rounds := vainRounds entries
    (history.health = .healthy ↔ rounds = 0) ∧
      (history.health = .down ↔ 0 < downAfter ∧ downAfter.toNat ≤ rounds) ∧
      (history.health = .degraded ↔ rounds ≠ 0 ∧ ¬ (0 < downAfter ∧ downAfter.toNat ≤ rounds)) ∧
      (∀ prior entry, prior ++ [entry] <+: entries → (after prior).health = .down →
        (after (prior ++ [entry])).health = if entry.isSuccess then .healthy else .down) ∧
      history.successes = .ofNat (entries.countP Entry.isSuccess) ∧
      history.failures = .ofNat (entries.countP Entry.isFailure) ∧
      history.lastError = (entries.filterMap Entry.attempt?).getLast?.join := by
  intro after history rounds
  have reflects := reflects_enterAll downAfter entries
  have fits := few entries (List.prefix_refl _)
  refine ⟨reflects.healthy_iff, reflects.down_iff fits, reflects.degraded_iff fits, ?_,
    reflects.successes, reflects.failures, reflects.lastError⟩
  intro prior entry part down
  have before := reflects_enterAll downAfter prior
  have next := reflects_enterAll downAfter (prior ++ [entry])
  obtain ⟨positive, most⟩ :=
    (before.down_iff (few prior ((List.prefix_append prior [entry]).trans part))).mp down
  cases success : entry.isSuccess with
  | true =>
    refine next.healthy_iff.mpr ?_
    cases entry with
    | success latency now => exact vainRounds_success prior latency now
    | failure error => exact nomatch success
    | exhaustion => exact nomatch success
  | false =>
    exact (next.down_iff (few _ part)).mpr
      ⟨positive, Nat.le_trans most (vainRounds_le prior success)⟩

/-- Two rounds take a resolver down, a failed attempt between them or not, and a third one leaves it
there. -/
theorem health_follows_entries_down :
    let entries : List Entry := [.exhaustion, .failure (.timeout "a"), .exhaustion, .exhaustion]
    (∀ prior, prior <+: entries → vainRounds prior < UInt32.size) ∧
      (enterAll 2 {} entries).health = .down ∧ (enterAll 2 {} entries).failures = 1 ∧
      (enterAll 2 {} entries).lastError = some (.timeout "a") := by
  intro entries
  have few (prior : List Entry) (part : prior <+: entries) : vainRounds prior < UInt32.size :=
    calc vainRounds prior
      _ ≤ prior.length := vainRounds_le_length prior
      _ ≤ entries.length := part.length_le
      _ < UInt32.size := by decide
  obtain ⟨-, down, -, -, -, failures, lastError⟩ := health_follows_entries 2 entries few
  exact ⟨few, down.mpr (by decide), failures, lastError⟩

end History

/-- The entry that an outcome makes. -/
def Entry.ofOutcome (outcome : Except Error Message) (latency : Nat) (now : Int) : Entry :=
  match outcome with
  | .ok _ => .success latency now
  | .error error => .failure error

variable {C σ : Type}

namespace Group

/-- Puts an entry into the history of the resolver at a place. -/
def enter (group : Group C) (index : Nat) (entry : Entry) : Group C :=
  group.modify index fun member =>
    { member with history := member.history.enter group.downAfter entry }

/-- An entry for a member that is not there changes nothing. -/
theorem enter_eq_self {group : Group C} {index : Nat} (absent : group.members[index]? = none)
    (entry : Entry) : group.enter index entry = group := by
  rw [enter, modify, List.modify_eq_set_getElem?, absent]
  rfl

/-- To settle an attempt is to enter its outcome. -/
theorem settle_eq_enter (group : Group C) (index : Nat) (outcome : Except Error Message)
    (latency : Nat) (now : Int) :
    (group.settle index outcome latency now).1 =
      group.enter index (.ofOutcome outcome latency now) := by
  cases present : group.members[index]? with
  | none =>
    rw [enter_eq_self present]
    simp only [settle, present]
  | some member =>
    simp only [settle, present]
    cases outcome <;> rfl

/-- To exhaust a round is to enter it. -/
theorem exhaust_eq_enter (group : Group C) (index : Nat) :
    (group.exhaust index).1 = group.enter index .exhaustion := by
  cases present : group.members[index]? with
  | none =>
    rw [enter_eq_self present]
    simp only [exhaust, present]
  | some member =>
    simp only [exhaust, present, enter, modify_eq_put present]
    rfl

/-- An attempt changes the pool of its resolver, and then puts its outcome into the history. -/
theorem attempt_eq_enter (group : Group C) (index : Nat) (query : Message) (course : Course C) :
    ∃ pool : Member C → Pool C,
      (group.attempt index query course).2.1 =
        (group.modify index fun member => { member with pool := pool member }).enter index
          (.ofOutcome (group.attempt index query course).1 course.latency course.finished) := by
  cases present : group.members[index]? with
  | none =>
    refine ⟨Member.pool, ?_⟩
    have same : (group.modify index fun member => { member with pool := member.pool }) = group := by
      rw [modify, List.modify_eq_set_getElem?, present]
      rfl
    rw [same, enter_eq_self present]
    simp only [attempt, present]
  | some member =>
    refine ⟨fun _ => (member.pool.complete query course.events).2, ?_⟩
    simp only [attempt, present]
    exact settle_eq_enter _ index _ course.latency course.finished

/-- A modified group has the modified member at its place, and the others as they were. -/
theorem getElem?_modify {group : Group C} {index : Nat} {member : Member C}
    (present : group.members[index]? = some member) (place : Nat) (f : Member C → Member C) :
    (group.modify place f).members[index]? = some (if place = index then f member else member) := by
  rw [modify, List.getElem?_modify, present]
  rfl

/-- An entry goes into the history of the member that it is for, and into no other. -/
theorem history_enter {group : Group C} {index : Nat} {member : Member C}
    (present : group.members[index]? = some member) (place : Nat) (entry : Entry) :
    ∃ changed, (group.enter place entry).members[index]? = some changed ∧
      changed.history =
        member.history.enterAll group.downAfter (if place = index then [entry] else []) := by
  refine ⟨_, getElem?_modify present place _, ?_⟩
  split <;> rfl

end Group

namespace Session

variable (servers : Servers C σ)

/-- What a request puts into a history, and the place of the resolver that has it. -/
def entry? (session : Session C σ) (request : Request) : Option (Nat × Entry) :=
  match request with
  | .attempt index query timeoutMs =>
    let course := (servers index query timeoutMs session.servers).1
    let outcome := (session.group.attempt index query course).1
    some (index, .ofOutcome outcome course.latency course.finished)
  | .exhausted index => some (index, .exhaustion)
  | _ => none

/-- What a request puts into the history of the resolver at a place. -/
def entriesOf (session : Session C σ) (index : Nat) (request : Request) : List Entry :=
  match session.entry? servers request with
  | some (place, entry) => if place = index then [entry] else []
  | none => []

/-- Does what requests ask for, one after the other. They may be those of one dialogue, or of many
that go on at the same time. -/
def serve (session : Session C σ) (requests : List Request) : Session C σ :=
  requests.foldl (fun session request => (tell servers request session).2) session

/-- What requests put into the history of the resolver at a place. -/
def entriesAt (index : Nat) : List Request → Session C σ → List Entry
  | [], _ => []
  | request :: rest, session =>
    session.entriesOf servers index request ++
      entriesAt index rest (tell servers request session).2

/-- Running a dialogue serves what it asks for. -/
theorem state_run {α : Type} (dialogue : Dialogue interface α) (session : Session C σ) :
    (dialogue.run (tell servers) session).state =
      session.serve servers (dialogue.run (tell servers) session).asked := by
  induction dialogue generalizing session with
  | done value => rfl
  | ask request next ih => exact ih _ _

variable {session : Session C σ} {index : Nat} {member : Member C}

/-- A request puts its entry into a history, and changes a pool at most. -/
theorem history_tell (present : session.group.members[index]? = some member) (request : Request) :
    (tell servers request session).2.group.downAfter = session.group.downAfter ∧
      ∃ changed, (tell servers request session).2.group.members[index]? = some changed ∧
        changed.history = member.history.enterAll session.group.downAfter
          (session.entriesOf servers index request) := by
  cases request with
  | health other => exact ⟨rfl, member, present, rfl⟩
  | report event => exact ⟨rfl, member, present, rfl⟩
  | attempt other query timeoutMs =>
    obtain ⟨pool, group⟩ := session.group.attempt_eq_enter other query
      (servers other query timeoutMs session.servers).1
    change (tell servers (.attempt other query timeoutMs) session).2.group = _ at group
    rw [group]
    let refreshed := if other = index then { member with pool := pool member } else member
    have kept : refreshed.history = member.history := by
      simp only [refreshed]
      split <;> rfl
    obtain ⟨changed, there, history⟩ := Group.history_enter
      (Group.getElem?_modify present other fun member => { member with pool := pool member }) other
      (.ofOutcome (session.group.attempt other query _).1 _ _)
    refine ⟨rfl, changed, there, history.trans ?_⟩
    exact congrArg (History.enterAll _ · _) kept
  | exhausted other =>
    have group : (tell servers (.exhausted other) session).2.group =
        session.group.enter other .exhaustion := session.group.exhaust_eq_enter other
    rw [group]
    exact ⟨rfl, Group.history_enter present other .exhaustion⟩

/-- Whatever requests are put to a session, in whatever order, the history of each resolver is the
one that its entries make. -/
theorem history_serve (present : session.group.members[index]? = some member)
    (requests : List Request) :
    ∃ changed, (session.serve servers requests).group.members[index]? = some changed ∧
      changed.history =
        member.history.enterAll session.group.downAfter
          (entriesAt servers index requests session) := by
  induction requests generalizing session member with
  | nil => exact ⟨member, present, rfl⟩
  | cons request rest ih =>
    obtain ⟨limit, changed, there, first⟩ := history_tell servers present request
    obtain ⟨last, found, history⟩ := ih there
    refine ⟨last, found, ?_⟩
    rw [history, limit, first, entriesAt, History.enterAll, History.enterAll, History.enterAll,
      List.foldl_append]

end Session

end DnsForwarder.Resolver
