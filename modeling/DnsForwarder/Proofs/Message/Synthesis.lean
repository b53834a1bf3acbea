import DnsForwarder.Proofs.Message.Truncation

/-!
# Replies made on the spot are read as they were made

A refusal, a report of failure and a redirection repeat what a client needs to know its request by,
and have nothing else of it. Whatever the names of the questions are, and however they are
compressed when they are written again, such a reply is read as the very same message if it is not
too large (`DnsForwarder.Message.replies_read_back`).
-/

namespace DnsForwarder

/-- The record of an address can be written. -/
theorem Record.regular_a (name : Name) («class» : UInt16) (ttl : UInt32) (address : Net.IPv4) :
    (⟨name, «class», ttl, .a address⟩ : Record).Regular where
  data := trivial
  owner := fun opt => absurd opt (by decide : RecordType.a ≠ RecordType.opt)
  payload := fun opt => absurd opt (by decide : RecordType.a ≠ RecordType.opt)

namespace Message

/-- A reply has the identifier, the kind of query, the wish for recursion and the questions of a
request, and apart from a response code and some answers it has nothing else. -/
structure Repeats (reply request : Message) (code : Fin 4096) (answers : List Record) : Prop where
  id : reply.id = request.id
  response : reply.response = true
  opcode : reply.opcode = request.opcode
  authoritative : reply.authoritative = false
  truncated : reply.truncated = false
  recursionDesired : reply.recursionDesired = request.recursionDesired
  recursionAvailable : reply.recursionAvailable = true
  authenticData : reply.authenticData = false
  checkingDisabled : reply.checkingDisabled = false
  code : reply.responseCode = code
  questions : reply.questions = request.questions
  answers : reply.answers = answers
  authority : reply.authority = []
  additional : reply.additional = []
  edns : reply.edns = none

/-- A reply without records repeats the request. -/
theorem repeats_replyTo (request : Message) (code : Fin 4096) :
    (request.replyTo code).Repeats request code [] := by
  constructor <;> rfl

/-- A redirection repeats the request and gives the target for the name of the first question. -/
theorem repeats_redirect {request : Message} {question : Question}
    (first : request.questions.head? = some question) (target : Net.IPv4) :
    (request.redirect target).Repeats request ResponseCode.noError
      [⟨question.name, classInternet, redirectTtl, .a target⟩] := by
  constructor
  case answers =>
    rw [redirect, first]
    rfl
  all_goals rfl

namespace Repeats

variable {reply request : Message} {code : Fin 4096} {answers : List Record}

/-- A repetition with at most one address can be written. -/
theorem regular (repeats : reply.Repeats request code answers) (lower : code.val < 16)
    (few : answers.length ≤ 1) (addresses : ∀ record ∈ answers, ∃ address, record.data = .a address)
    (short : reply.octets.length ≤ maxLength) : reply.Regular := by
  constructor
  case questions => exact length_questions_lt short
  case answers =>
    rw [repeats.answers]
    omega
  case authority => simp [repeats.authority]
  case additional => simp [repeats.additional, repeats.edns]
  case records =>
    intro record member
    simp only [repeats.answers, repeats.authority, repeats.additional, List.append_nil] at member
    obtain ⟨address, data⟩ := addresses record member
    obtain ⟨name, recordClass, ttl, _⟩ := record
    subst data
    exact Record.regular_a name recordClass ttl address
  case plain => simp [repeats.additional]
  case payload => simp [repeats.edns]
  case options => simp [repeats.edns]
  case code =>
    intro _
    rw [repeats.code]
    exact lower

/-- There are no targets in a repetition whose case could be lost. -/
theorem lowerTargets (repeats : reply.Repeats request code answers)
    (addresses : ∀ record ∈ answers, ∃ address, record.data = .a address) :
    reply.lowerTargets = reply := by
  have kept : answers.map Record.lowerTarget = answers := by
    refine (List.map_congr_left fun record member => ?_).trans (List.map_id answers)
    obtain ⟨address, data⟩ := addresses record member
    obtain ⟨name, recordClass, ttl, _⟩ := record
    subst data
    rfl
  rw [Message.lowerTargets, repeats.answers, repeats.authority, repeats.additional, kept]
  obtain ⟨⟩ := reply
  obtain ⟨-, -, -, -, -, -, -, -, -, -, -, answers, authority, additional, -⟩ := repeats
  subst answers authority additional
  rfl

/-- A reply without records other than addresses is read as it was made. -/
theorem decode_octets (repeats : reply.Repeats request code answers) (lower : code.val < 16)
    (few : answers.length ≤ 1) (addresses : ∀ record ∈ answers, ∃ address, record.data = .a address)
    (short : reply.octets.length ≤ maxLength) : decode reply.octets = .ok reply := by
  have plain : ∀ record ∈ reply.answers ++ reply.authority, record.data.type ≠ RecordType.opt := by
    intro record member
    rw [repeats.answers, repeats.authority, List.append_nil] at member
    obtain ⟨address, data⟩ := addresses record member
    rw [data]
    exact (by decide : RecordType.a ≠ RecordType.opt)
  rw [decode_of_encode? (repeats.regular lower few addresses short) plain
    (reply.encode?_of_le short), repeats.lowerTargets addresses]

end Repeats

/-- The replies that are made on the spot, to a request with any questions, any flags and any
records: a refusal has response code 5, a report of failure 2 and a redirection 0; they repeat the
request's identifier, its kind of query, its wish for recursion and all of its questions in order,
they are marked as responses and offer recursion, no other flag is set, and they have no records,
apart from the address that a redirection gives for the name of the first question, which may be
remembered for 60 seconds. Each of them, if it has no more than 65535 octets, is written and is read
as the same message again. -/
theorem replies_read_back {request : Message} {question : Question}
    (first : request.questions.head? = some question) (target : Net.IPv4) :
    request.refused.Repeats request 5 [] ∧
      request.serverFailure.Repeats request 2 [] ∧
      (request.redirect target).Repeats request 0 [⟨question.name, classInternet, 60, .a target⟩] ∧
      ∀ reply ∈ [request.refused, request.serverFailure, request.redirect target],
        reply.octets.length ≤ 65535 →
          reply.encode? = some reply.octets ∧ decode reply.octets = .ok reply := by
  have refused : request.refused.Repeats request 5 [] := request.repeats_replyTo _
  have failed : request.serverFailure.Repeats request 2 [] := request.repeats_replyTo _
  have redirected : (request.redirect target).Repeats request 0
      [⟨question.name, classInternet, 60, .a target⟩] := repeats_redirect first target
  refine ⟨refused, failed, redirected, fun reply member short => ⟨reply.encode?_of_le short, ?_⟩⟩
  simp only [List.mem_cons, List.not_mem_nil, or_false] at member
  rcases member with rfl | rfl | rfl
  · exact refused.decode_octets (by decide) (Nat.zero_le 1) nofun short
  · exact failed.decode_octets (by decide) (Nat.zero_le 1) nofun short
  · refine redirected.decode_octets (by decide) (Nat.le_refl 1) ?_ short
    intro record member
    obtain rfl := List.mem_singleton.mp member
    exact ⟨target, rfl⟩

/-- A request of another kind than usual with two questions, EDNS data and flags that are not
repeated. The second name ends in the first, whose label has a dot, and the owner of the address
points back to that. -/
theorem replies_read_back_two_questions :
    let name : Name := ⟨[[0x41, 46, 0x62]], by decide, by decide⟩
    let below : Name := ⟨[[0x63], [0x41, 46, 0x62]], by decide, by decide⟩
    let request : Message :=
      { id := 7
        opcode := 4
        recursionDesired := true
        checkingDisabled := true
        questions := [⟨name, RecordType.a, classInternet⟩, ⟨below, RecordType.any, 255⟩]
        edns := some ⟨1232, 0, 0x8000, []⟩ }
    let reply := request.redirect ⟨192, 0, 2, 9⟩
    decode request.octets = .ok request ∧
      request.questions.head? = some ⟨name, RecordType.a, classInternet⟩ ∧
      reply.octets.length = 45 ∧
      reply.Repeats request 0 [⟨name, classInternet, 60, .a ⟨192, 0, 2, 9⟩⟩] ∧
      decode reply.octets = .ok reply := by
  intro name below request reply
  have first : request.questions.head? = some ⟨name, RecordType.a, classInternet⟩ := rfl
  have length : reply.octets.length = 45 := by decide +kernel
  obtain ⟨-, -, repeats, read⟩ := replies_read_back first ⟨192, 0, 2, 9⟩
  have last := read reply (by simp [reply]) (by rw [length]; decide)
  exact ⟨by decide +kernel, first, length, repeats, last.2⟩

end Message

end DnsForwarder
