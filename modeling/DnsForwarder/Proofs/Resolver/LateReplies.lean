import DnsForwarder.Resolver.Pool
import Mathlib.Data.List.Basic

/-!
# Late replies

Exchanges on a channel take turns, and a datagram that one of them leaves is there for the next.
Whatever the order in which replies arrive, an exchange takes a reply to a query with its own
identifier only: to its own query, or to an earlier one
(`DnsForwarder.Resolver.Channel.heard_answers_same_id`). Questions are not compared: of two queries
with one identifier, the second can be given the reply to the first
(`DnsForwarder.Resolver.Channel.heard_answers_other_question`).
-/

namespace DnsForwarder.Resolver

namespace Channel

/-- A datagram of the server, with the number of the query that it answers. -/
structure Reply where
  answers : Nat
  bytes : Bytes
deriving DecidableEq

/-- One of the exchanges on a channel. -/
structure Round where
  query : Message
  /-- What arrives from its start to the start of the next one. -/
  arriving : List Reply
  /-- After how many datagrams it is cut short, by a failure or because it is given up. -/
  limit : Option Nat := none

/-- What an exchange can read of the datagrams that are there. -/
def Round.within (round : Round) (datagrams : List Bytes) : List Bytes × List Bytes :=
  match round.limit with
  | some limit => datagrams.splitAt limit
  | none => (datagrams, [])

/-- What each of the exchanges hears, one after the other. -/
def hearEach : List Round → (waiting : List Bytes) → List (Option Bytes)
  | [], _ => []
  | round :: rest, waiting =>
    let (within, beyond) := round.within (waiting ++ round.arriving.map Reply.bytes)
    let (heard, left) := receive round.query.id within
    heard :: hearEach rest (left ++ beyond)

/-- Without failures, these are the exchanges on a channel. -/
theorem exchanges_eq_hearEach (server : Net.SocketAddress) (rounds : List Round)
    (whole : ∀ round ∈ rounds, round.limit = none) (waiting : List Bytes) :
    (exchanges server (rounds.map fun round => (round.query.id, round.arriving.map Reply.bytes))
        waiting).1 =
      (hearEach rounds waiting).map fun
        | some read => .ok read
        | none => .error (.timeout (toString server)) := by
  induction rounds generalizing waiting with
  | nil => rfl
  | cons round rest ih =>
    obtain ⟨here, there⟩ := List.forall_mem_cons.mp whole
    rw [List.map_cons, exchanges, hearEach, Round.within, here, exchange]
    dsimp only
    cases receive round.query.id (waiting ++ round.arriving.map Reply.bytes) with
    | mk heard left =>
      cases heard <;> simp [ih there]

/-- Reading goes on up to the first datagram that carries the identifier, or to the end. -/
theorem receive_cases (id : UInt16) (datagrams : List Bytes) :
    (∃ skipped datagram rest, datagrams = skipped ++ datagram :: rest ∧
      (∀ other ∈ skipped, carries id (cut other) = false) ∧ carries id (cut datagram) ∧
      receive id datagrams = (some (cut datagram), rest)) ∨
    (∀ other ∈ datagrams, carries id (cut other) = false) ∧ receive id datagrams = (none, []) := by
  induction datagrams with
  | nil => exact .inr ⟨nofun, rfl⟩
  | cons datagram rest ih =>
    rw [receive]
    cases fits : carries id (cut datagram) with
    | true => exact .inl ⟨[], datagram, rest, rfl, nofun, fits, rfl⟩
    | false =>
      obtain ⟨skipped, found, left, rfl, others, carried, read⟩ | ⟨others, read⟩ := ih
      · exact .inl ⟨datagram :: skipped, found, left, rfl, List.forall_mem_cons.mpr ⟨fits, others⟩,
          carried, read⟩
      · exact .inr ⟨List.forall_mem_cons.mpr ⟨fits, others⟩, read⟩

/-- What is left after reading was there before. -/
theorem left_subset_of_receive {id : UInt16} {datagrams left : List Bytes} {heard : Option Bytes}
    (read : receive id datagrams = (heard, left)) : left ⊆ datagrams := by
  obtain ⟨skipped, datagram, rest, rfl, -, -, found⟩ | ⟨-, found⟩ := receive_cases id datagrams
  · obtain ⟨-, rfl⟩ := Prod.mk.inj (found.symm.trans read)
    exact List.Subset.trans (List.subset_cons_self datagram rest)
      (List.subset_append_right skipped _)
  · obtain ⟨-, rfl⟩ := Prod.mk.inj (found.symm.trans read)
    exact List.nil_subset datagrams

/-- What comes within a round and what comes after it is all that comes. -/
theorem Round.within_append (round : Round) (datagrams : List Bytes) :
    (round.within datagrams).1 ++ (round.within datagrams).2 = datagrams := by
  rw [within]
  cases round.limit with
  | none => exact List.append_nil datagrams
  | some limit =>
    dsimp only
    rw [List.splitAt_eq, List.take_append_drop]

/-- What arrived before the exchange at a place started. -/
def arrivedBefore (rounds : List Round) (place : Nat) : List Reply :=
  (rounds.take place).flatMap Round.arriving

/-- In one more round more replies arrive, those of the round. -/
theorem arrivedBefore_succ {rounds : List Round} {place : Nat} {round : Round}
    (there : rounds[place]? = some round) :
    arrivedBefore rounds (place + 1) = arrivedBefore rounds place ++ round.arriving := by
  rw [arrivedBefore, List.take_add_one, there, List.flatMap_append]
  exact congrArg _ (List.append_nil _)

/-- What an exchange hears is read from what earlier ones left and from what arrives in its own
time. -/
theorem getElem?_hearEach {rounds : List Round} {place : Nat} {round : Round}
    (there : rounds[place]? = some round) (waiting : List Bytes) :
    ∃ left, left ⊆ waiting ++ (arrivedBefore rounds place).map Reply.bytes ∧
      (hearEach rounds waiting)[place]? = some
        (receive round.query.id (round.within (left ++ round.arriving.map Reply.bytes)).1).1 := by
  induction rounds generalizing place waiting with
  | nil => exact nomatch there
  | cons first rest ih =>
    let datagrams := waiting ++ first.arriving.map Reply.bytes
    let heard := receive first.query.id (first.within datagrams).1
    cases place with
    | zero =>
      obtain rfl := Option.some.inj there
      exact ⟨waiting, List.subset_append_left waiting _, rfl⟩
    | succ place =>
      obtain ⟨left, among, hears⟩ := ih there (heard.2 ++ (first.within datagrams).2)
      refine ⟨left, List.Subset.trans among ?_, hears⟩
      have unread : heard.2 ++ (first.within datagrams).2 ⊆ datagrams := by
        have read : heard.2 ⊆ (first.within datagrams).1 := left_subset_of_receive rfl
        conv_rhs => rw [← first.within_append datagrams]
        exact List.append_subset.mpr ⟨List.Subset.trans read (List.subset_append_left _ _),
          List.subset_append_right _ _⟩
      have arrived : waiting ++ (arrivedBefore (first :: rest) (place + 1)).map Reply.bytes =
          datagrams ++ (arrivedBefore rest place).map Reply.bytes := by
        rw [arrivedBefore, List.take_succ_cons, List.flatMap_cons, List.map_append,
          ← List.append_assoc, arrivedBefore]
      rw [arrived]
      exact List.append_subset.mpr ⟨List.Subset.trans unread (List.subset_append_left _ _),
        List.subset_append_right _ _⟩

/-- An exchange hears something of what has arrived, and of all that arrives in its time if nothing
cuts it short. -/
theorem hears_arrived {rounds : List Round} {place : Nat} {round : Round}
    (there : rounds[place]? = some round) :
    ∃ datagrams, datagrams ⊆ (arrivedBefore rounds (place + 1)).map Reply.bytes ∧
      (round.limit = none → round.arriving.map Reply.bytes ⊆ datagrams) ∧
      (hearEach rounds [])[place]? = some (receive round.query.id datagrams).1 := by
  obtain ⟨left, among, hears⟩ := getElem?_hearEach there []
  let datagrams := left ++ round.arriving.map Reply.bytes
  refine ⟨(round.within datagrams).1, ?_, ?_, hears⟩
  · have arrived : datagrams ⊆ (arrivedBefore rounds (place + 1)).map Reply.bytes := by
      rw [arrivedBefore_succ there, List.map_append]
      exact List.append_subset.mpr ⟨List.Subset.trans among (List.subset_append_left _ _),
        List.subset_append_right _ _⟩
    refine List.Subset.trans ?_ arrived
    conv_rhs => rw [← round.within_append datagrams]
    exact List.subset_append_left _ _
  · intro whole
    rw [Round.within, whole]
    exact List.subset_append_right _ _

/-- Each reply answers a query that was sent before it arrived, and begins with its identifier. -/
def Answering (rounds : List Round) : Prop :=
  ∀ (place : Nat) (inside : place < rounds.length), ∀ reply ∈ rounds[place].arriving,
    reply.answers ≤ place ∧ rounds[reply.answers]?.any (carries ·.query.id reply.bytes)

instance (rounds : List Round) : Decidable (Answering rounds) := by
  unfold Answering
  infer_instance

/-- A datagram that is cut off carries the identifier that it carried whole. -/
theorem carries_cut (id : UInt16) (datagram : Bytes) :
    carries id (cut datagram) = carries id datagram := by
  match datagram with
  | [] => rfl
  | [_] => rfl
  | _ :: _ :: _ => rfl

/-- A datagram carries one identifier at most. -/
theorem eq_of_carries {first second : UInt16} {datagram : Bytes} (one : carries first datagram)
    (other : carries second datagram) : first = second := by
  match datagram with
  | [] => exact nomatch one
  | [_] => exact nomatch one
  | high :: low :: _ => exact (eq_of_beq one).symm.trans (eq_of_beq other)

/-- A reply of a round answers a query of that round or an earlier one, and carries its
identifier. -/
theorem Answering.arriving {rounds : List Round} (answering : Answering rounds) {place : Nat}
    {round : Round} (there : rounds[place]? = some round) {reply : Reply}
    (arriving : reply ∈ round.arriving) :
    reply.answers ≤ place ∧
      ∃ asked, rounds[reply.answers]? = some asked ∧ carries asked.query.id reply.bytes := by
  obtain ⟨inside, rfl⟩ := List.getElem?_eq_some_iff.mp there
  obtain ⟨answered, sent⟩ := answering place inside reply arriving
  exact ⟨answered, Option.any_eq_true _ _ |>.mp sent⟩

/-- A reply that arrived before a round answers a query of an earlier one, and carries its
identifier. -/
theorem Answering.arrivedBefore {rounds : List Round} (answering : Answering rounds) {place : Nat}
    {reply : Reply} (arrived : reply ∈ arrivedBefore rounds place) :
    reply.answers < place ∧
      ∃ asked, rounds[reply.answers]? = some asked ∧ carries asked.query.id reply.bytes := by
  obtain ⟨round, among, arriving⟩ := List.mem_flatMap.mp arrived
  obtain ⟨arrival, inside, rfl⟩ := List.mem_take_iff_getElem.mp among
  obtain ⟨answered, asked⟩ := answering.arriving (List.getElem?_eq_getElem _) arriving
  exact ⟨by omega, asked⟩

/-- What an exchange hears is a reply that has arrived, and any reply with the same octets answers a
query with the same identifier, which is its own query or an earlier one. If a reply to its own
query arrives in its time and nothing cuts it short, it hears something. -/
theorem heard_answers_same_id (rounds : List Round) (answering : Answering rounds) {place : Nat}
    {round : Round} (there : rounds[place]? = some round) :
    (∀ bytes, (hearEach rounds [])[place]? = some (some bytes) →
      (∃ reply ∈ arrivedBefore rounds (place + 1), cut reply.bytes = bytes) ∧
        ∀ reply ∈ arrivedBefore rounds (place + 1), cut reply.bytes = bytes →
          reply.answers ≤ place ∧
            ∃ asked, rounds[reply.answers]? = some asked ∧ asked.query.id = round.query.id) ∧
      (round.limit = none → (∃ reply ∈ round.arriving, reply.answers = place) →
        ∃ bytes, (hearEach rounds [])[place]? = some (some bytes)) := by
  obtain ⟨datagrams, arrived, own, hears⟩ := hears_arrived there
  rw [hears]
  obtain ⟨skipped, datagram, rest, split, -, carried, read⟩ | ⟨others, read⟩ :=
    receive_cases round.query.id datagrams
  · rw [read]
    refine ⟨?_, fun _ _ => ⟨_, rfl⟩⟩
    intro bytes heard
    obtain rfl := Option.some.inj (Option.some.inj heard)
    constructor
    · have member : datagram ∈ datagrams := by
        rw [split]
        exact List.mem_append_right _ List.mem_cons_self
      obtain ⟨reply, present, rfl⟩ := List.mem_map.mp (arrived member)
      exact ⟨reply, present, rfl⟩
    · intro reply present same
      obtain ⟨answered, asked, sent, begins⟩ := answering.arrivedBefore present
      refine ⟨Nat.lt_succ_iff.mp answered, asked, sent, ?_⟩
      rw [← same] at carried
      rw [← carries_cut] at begins
      exact eq_of_carries begins carried
  · rw [read]
    refine ⟨nofun, ?_⟩
    -- A reply to the query of the exchange would carry its identifier, and nothing that is there
    -- does.
    rintro whole ⟨reply, arriving, answers⟩
    obtain ⟨-, asked, sent, begins⟩ := answering.arriving there arriving
    obtain rfl := Option.some.inj (there.symm.trans (answers ▸ sent))
    rw [← carries_cut, others reply.bytes (own whole (List.mem_map_of_mem arriving))] at begins
    exact absurd begins Bool.false_ne_true

/-- The queries of three exchanges, of which the last one has the identifier of the first. -/
theorem heard_answers_same_id_third :
    let query (id : UInt16) : Message := { id }
    let late : Reply := ⟨0, [0, 1, 128, 0]⟩
    let rounds : List Round := [⟨query 1, [], none⟩, ⟨query 2, [late, ⟨1, [0, 2, 129, 0]⟩], none⟩,
      ⟨query 1, [⟨1, [0, 2, 129, 0]⟩, late], some 2⟩]
    Answering rounds ∧ hearEach rounds [] = [none, some [0, 2, 129, 0], some [0, 1, 128, 0]] ∧
      ∃ asked, rounds[late.answers]? = some asked ∧ asked.query.id = 1 := by
  intro query late rounds
  have answering : Answering rounds := by decide
  have heard : (hearEach rounds [])[2]? = some (some late.bytes) := rfl
  obtain ⟨-, same⟩ := (heard_answers_same_id rounds answering rfl).1 late.bytes heard
  obtain ⟨-, asked⟩ := same late (by decide) rfl
  exact ⟨answering, rfl, asked⟩

/-- Of two queries with one identifier, the second is given the late reply to the first, which was
about another name. -/
theorem heard_answers_other_question :
    let ok : Name := ⟨[[111, 107]], by decide, by decide⟩
    let ad : Name := ⟨[[97, 100]], by decide, by decide⟩
    let query (name : Name) : Message :=
      { id := 7, questions := [⟨name, RecordType.a, classInternet⟩] }
    let late : Reply := ⟨0, [0, 7, 128, 0, 0, 1, 0, 0, 0, 0, 0, 0, 2, 111, 107, 0, 0, 1, 0, 1]⟩
    let rounds : List Round := [⟨query ok, [], none⟩, ⟨query ad, [late], none⟩]
    Answering rounds ∧ hearEach rounds [] = [none, some late.bytes] ∧
      arrivedBefore rounds 2 = [late] ∧
      (Pool.datagramAnswer? late.bytes).map Message.questions = some (query ok).questions ∧
      (query ok).questions ≠ (query ad).questions := by
  intro ok ad query late rounds
  exact ⟨by decide, rfl, rfl, by decide +kernel, by decide⟩

end Channel

namespace Pool

variable {C : Type}

/-- An exchange that does not listen takes no notice of datagrams. -/
theorem advance_datagrams_of_ne {stage : Stage C} (busy : stage ≠ .listening) (pool : Pool C)
    (id : UInt16) (datagrams : List Bytes) :
    advance id (datagrams.map .datagram) (stage, pool) = (stage, pool) := by
  induction datagrams with
  | nil => rfl
  | cons datagram rest ih =>
    cases stage with
    | listening => exact absurd rfl busy
    | queued => exact ih
    | streaming stage => exact ih
    | finished result => exact ih

/-- An exchange on a connection does not go back to the channel. -/
theorem conclude_ne_listening (server : Net.SocketAddress) (id : UInt16) (stage : StreamStage C) :
    conclude server id stage ≠ .listening := by
  cases stage with
  | finished result => cases result <;> exact nofun
  | pooled reservation connection => exact nofun
  | dialing reservation => exact nofun
  | fresh reservation connection => exact nofun

/-- An exchange with a pool listens as the channel does, and asks over a connection if what it hears
is cut or is not a message. -/
theorem advance_datagrams (pool : Pool C) (id : UInt16) (datagrams : List Bytes) :
    advance id (datagrams.map .datagram) (.listening, pool) =
      match (Channel.receive id datagrams).1 with
      | none => (.listening, pool)
      | some read =>
        match datagramAnswer? read with
        | some message => (.finished (.ok message), pool)
        | none => pool.fallBack id := by
  induction datagrams with
  | nil => rfl
  | cons datagram rest ih =>
    have stepped : advance id ((datagram :: rest).map .datagram) (.listening, pool) =
        advance id (rest.map .datagram) (pool.step id .listening (.datagram datagram)) := rfl
    rw [stepped, step, Channel.receive]
    cases Channel.carries id (Channel.cut datagram) with
    | false => exact ih
    | true =>
      rw [if_pos rfl, if_pos rfl]
      dsimp only
      cases datagramAnswer? (Channel.cut datagram) with
      | some message =>
        have ended : Stage.finished (.ok message) ≠ (.listening : Stage C) := nofun
        exact advance_datagrams_of_ne ended pool id rest
      | none => exact advance_datagrams_of_ne (conclude_ne_listening pool.server id _) _ id rest

end Pool

end DnsForwarder.Resolver
