import DnsForwarder.Message.Reply
import DnsForwarder.Proofs.Message.RoundTrip
import Mathlib.Algebra.BigOperators.Group.List.Basic
import Mathlib.Algebra.Order.Ring.Nat

/-!
# Replies that are cut

A reply that is larger than the sender of the request takes is cut to its header and its questions.
These are all that can make it too large still (`DnsForwarder.Message.encodeForDatagram?_fits_iff`),
and they are read as they were, but for the upper bits of the response code, which go with the EDNS
data (`DnsForwarder.Message.decode_encodeForDatagram?_of_lt`).
-/

namespace DnsForwarder

open Piece

namespace Piece

variable {α : Type} {write : α → Piece}

/-- Values that take at most so many octets each take at most their sum. -/
theorem length_concat_le {most : α → Nat} {values : List α}
    (each : ∀ value ∈ values, ∀ written offset, (write value written offset).1.length ≤ most value)
    (written : Written) (offset : Nat) :
    (concat (values.map write) written offset).1.length ≤ (values.map most).sum := by
  induction values generalizing written offset with
  | nil => exact Nat.le_refl 0
  | cons value values ih =>
    obtain ⟨first, others⟩ := List.forall_mem_cons.mp each
    change ((write value written offset).1 ++ (concat (values.map write) _ _).1).length ≤ _
    rw [List.length_append, List.map_cons, List.sum_cons]
    exact Nat.add_le_add (first written offset) (ih others _ _)

/-- Values that take an octet each take at least as many octets as they are. -/
theorem length_le_concat {values : List α}
    (each : ∀ value ∈ values, ∀ written offset, (write value written offset).1 ≠ [])
    (written : Written) (offset : Nat) :
    values.length ≤ (concat (values.map write) written offset).1.length := by
  induction values generalizing written offset with
  | nil => exact Nat.le_refl 0
  | cons value values ih =>
    obtain ⟨first, others⟩ := List.forall_mem_cons.mp each
    change _ ≤ ((write value written offset).1 ++ (concat (values.map write) _ _).1).length
    rw [List.length_append, List.length_cons, Nat.add_comm]
    exact Nat.add_le_add (List.length_pos_of_ne_nil (first written offset)) (ih others _ _)

end Piece

namespace Name

/-- Compression never makes a name longer. -/
theorem length_compressed_le (remember : Bool) (labels : List Bytes) (written : Written)
    (offset : Nat) :
    (compressed remember labels written offset).1.length ≤ wireLength labels := by
  induction labels generalizing written offset with
  | nil => exact Nat.le_refl 1
  | cons label rest ih =>
    have := wireLength_pos rest
    rw [compressed, wireLength_cons]
    split
    · change 2 ≤ _
      omega
    · simp only [List.cons_append, List.length_cons, List.length_append]
      have := ih (if remember then written.push (offset, label :: rest) else written)
        (offset + label.length + 1)
      omega

end Name

namespace Question

/-- The octets that a question takes in full. -/
def room (question : Question) : Nat := wireLength question.name.labels + 4

/-- A question takes no more octets than there is room for when it is written in full. -/
theorem length_piece_le (question : Question) (written : Written) (offset : Nat) :
    (question.piece written offset).1.length ≤ question.room := by
  change ((question.name.piece written offset).1 ++
    (Bytes.ofUInt16 _ ++ Bytes.ofUInt16 _)).length ≤ _
  rw [List.length_append, room]
  exact Nat.add_le_add_right (Name.length_compressed_le _ _ _ _) 4

/-- A question is never written with nothing. -/
theorem piece_ne_nil (question : Question) (written : Written) (offset : Nat) :
    (question.piece written offset).1 ≠ [] :=
  List.append_ne_nil_of_left_ne_nil (question.name.piece_ne_nil written offset) _

end Question

namespace Message

/-- A client takes 512 octets at least, and more if its EDNS data says so. -/
theorem toNat_maxPayload (message : Message) :
    message.maxPayload.toNat = max 512 (message.edns.elim 0 fun edns => edns.payload.toNat) := by
  unfold maxPayload
  cases message.edns with
  | none => rfl
  | some edns =>
    change (if edns.payload ≤ minPayload then minPayload else edns.payload).toNat =
      max 512 edns.payload.toNat
    split
    next below =>
      have : edns.payload.toNat ≤ 512 := UInt16.le_iff_toNat_le.mp below
      exact (Nat.max_eq_left this).symm
    next above =>
      have : 512 < edns.payload.toNat := UInt16.lt_iff_toNat_lt.mp (UInt16.not_le.mp above)
      exact (Nat.max_eq_right (Nat.le_of_lt this)).symm

/-- The questions as they are written behind the header. -/
def writtenQuestions (message : Message) : Bytes :=
  (concat (message.questions.map Question.piece) #[] 12).1

/-- The octets of a message are its header and its pieces behind that. -/
theorem octets_eq (message : Message) :
    message.octets = message.headerBytes ++ (concat message.pieces #[] 12).1 := by
  rw [octets, writePieces_eq]
  rfl

/-- A message has its header and its questions at least. -/
theorem le_length_octets (message : Message) :
    12 + message.writtenQuestions.length ≤ message.octets.length := by
  -- The questions are written first, so that what follows them does not change how they are.
  rw [octets_eq, List.length_append, pieces, concat_append]
  change 12 + _ ≤ 12 + (message.writtenQuestions ++ _).length
  rw [List.length_append]
  omega

/-- A message that is not too long has no more questions than can be counted. -/
theorem length_questions_lt {message : Message} (short : message.octets.length ≤ maxLength) :
    message.questions.length < 65536 := by
  have counted : message.questions.length ≤ message.writtenQuestions.length :=
    length_le_concat (fun question _ => question.piece_ne_nil) #[] 12
  have written := message.le_length_octets
  change _ ≤ 65535 at short
  omega

/-- What is written of a message is its octets, and they are not too many. -/
theorem eq_octets_of_encode? {message : Message} {bytes : Bytes}
    (encoded : message.encode? = some bytes) :
    bytes = message.octets ∧ message.octets.length ≤ maxLength := by
  rw [encode?] at encoded
  split at encoded
  next fits => exact ⟨(Option.some.inj encoded).symm, fits⟩
  · cases encoded

/-- A message of a header and questions alone. -/
structure Bare (message : Message) : Prop where
  answers : message.answers = []
  authority : message.authority = []
  additional : message.additional = []
  edns : message.edns = none

namespace Bare

variable {message : Message}

/-- A bare message has its questions and nothing else. -/
theorem pieces (bare : message.Bare) : message.pieces = message.questions.map Question.piece := by
  rw [Message.pieces, bare.answers, bare.authority, additionalSent, bare.additional, bare.edns]
  exact List.append_nil _

/-- A bare message has as many octets as its header and its questions. -/
theorem length_octets (bare : message.Bare) :
    message.octets.length = 12 + message.writtenQuestions.length := by
  rw [octets_eq, bare.pieces, List.length_append]
  rfl

/-- A bare message can be written, if its response code has four bits. -/
theorem regular (bare : message.Bare) (few : message.questions.length < 65536)
    (code : message.responseCode.val < 16) : message.Regular := by
  constructor
  case questions => exact few
  case code => exact fun _ => code
  all_goals simp [bare.answers, bare.authority, bare.additional, bare.edns]

/-- There are no targets in a bare message whose case could be lost. -/
theorem lowerTargets (bare : message.Bare) : message.lowerTargets = message := by
  obtain ⟨answers, authority, additional, -⟩ := bare
  cases message
  subst answers authority additional
  rfl

/-- A bare message is read as it was written. -/
theorem decode_octets (bare : message.Bare) (code : message.responseCode.val < 16)
    (short : message.octets.length ≤ maxLength) : decode message.octets = .ok message := by
  rw [decode_of_encode? (bare.regular (length_questions_lt short) code) ?_
    (message.encode?_of_le short), bare.lowerTargets]
  rw [bare.answers, bare.authority]
  exact nofun

end Bare

/-- A reply without records is bare. -/
theorem bare_replyTo (request : Message) (responseCode : Fin 4096) :
    (request.replyTo responseCode).Bare := ⟨rfl, rfl, rfl, rfl⟩

/-- A reply that was cut is bare. -/
theorem bare_truncate (response : Message) : response.truncate.Bare := ⟨rfl, rfl, rfl, rfl⟩

/-- A reply that was cut has as many octets as its header and its questions. -/
theorem length_truncate (response : Message) :
    response.truncate.octets.length = 12 + response.writtenQuestions.length :=
  response.bare_truncate.length_octets

/-- Cutting a reply does not make it longer. -/
theorem length_truncate_le (response : Message) :
    response.truncate.octets.length ≤ response.octets.length := by
  rw [length_truncate]
  exact response.le_length_octets

/-- Questions take no more octets than there is room for when they are written in full. -/
theorem length_writtenQuestions_le (message : Message) :
    message.writtenQuestions.length ≤ (message.questions.map Question.room).sum :=
  length_concat_le (fun question _ => question.length_piece_le) #[] 12

/-- A reply that can be written is sent as a datagram, whole if the client takes so many octets, and
else cut. -/
theorem encodeForDatagram?_of_encode? (request : Message) {response : Message} {whole : Bytes}
    (encoded : response.encode? = some whole) :
    request.encodeForDatagram? response =
      some (if whole.length ≤ request.maxPayload.toNat then whole
        else response.truncate.octets) := by
  obtain ⟨rfl, short⟩ := eq_octets_of_encode? encoded
  have cut := response.truncate.encode?_of_le (Nat.le_trans response.length_truncate_le short)
  rw [encodeForDatagram?, encoded]
  dsimp only
  by_cases fits : response.octets.length ≤ request.maxPayload.toNat
  · rw [if_pos fits, if_pos fits]
  · rw [if_neg fits, if_neg fits, cut]

/-- A reply is sent whole if it is small enough, and else cut. -/
theorem encodeForDatagram?_cases {request response : Message} {bytes : Bytes}
    (sent : request.encodeForDatagram? response = some bytes) :
    response.octets.length ≤ request.maxPayload.toNat ∧ bytes = response.octets ∨
      request.maxPayload.toNat < response.octets.length ∧ bytes = response.truncate.octets := by
  cases encoded : response.encode? with
  | none =>
    rw [encodeForDatagram?, encoded] at sent
    exact nomatch sent
  | some whole =>
    rw [request.encodeForDatagram?_of_encode? encoded] at sent
    obtain ⟨rfl, -⟩ := eq_octets_of_encode? encoded
    split at sent
    next small => exact .inl ⟨small, (Option.some.inj sent).symm⟩
    next large => exact .inr ⟨Nat.not_le.mp large, (Option.some.inj sent).symm⟩

/-- One question takes no more than 259 octets. -/
theorem sum_room_le {questions : List Question} (few : questions.length ≤ 1) :
    (questions.map Question.room).sum ≤ 259 := by
  match questions with
  | [] => exact Nat.zero_le _
  | [question] =>
    have := question.name.wire_fits
    rw [List.map_singleton, List.sum_singleton, Question.room]
    omega
  | _ :: _ :: _ =>
    simp only [List.length_cons] at few
    omega

/-- What is sent as a datagram is not larger than the sender of the request takes exactly if the
header and the questions of the reply are not. They are not if there is one question at most. -/
theorem encodeForDatagram?_fits_iff {request response : Message} {bytes : Bytes}
    (sent : request.encodeForDatagram? response = some bytes) :
    let limit := max 512 (request.edns.elim 0 fun edns => edns.payload.toNat)
    let least := 12 + response.writtenQuestions.length
    (bytes.length ≤ limit ↔ least ≤ limit) ∧
      (limit < bytes.length → bytes = response.truncate.octets ∧ bytes.length = least) ∧
      (12 + (response.questions.map Question.room).sum ≤ limit → bytes.length ≤ limit) ∧
      (response.questions.length ≤ 1 → bytes.length ≤ limit) := by
  intro limit least
  have larger : least ≤ response.octets.length :=
    Nat.le_trans (Nat.le_of_eq response.length_truncate.symm) response.length_truncate_le
  rcases encodeForDatagram?_cases sent with ⟨small, rfl⟩ | ⟨-, rfl⟩
  · rw [request.toNat_maxPayload] at small
    exact ⟨iff_of_true small (Nat.le_trans larger small),
      fun exceeds => absurd small (Nat.not_le.mpr exceeds), fun _ => small, fun _ => small⟩
  · have written := response.length_writtenQuestions_le
    rw [response.length_truncate]
    refine ⟨Iff.rfl, fun _ => ⟨rfl, rfl⟩, fun enough => ?_, fun few => ?_⟩
    · omega
    · have := sum_room_le few
      omega

/-- A reply with a question and one long record is cut, and is small enough then. -/
theorem encodeForDatagram?_fits_iff_long_record :
    let request : Message := { id := 7, questions := [⟨.root, 65280, classInternet⟩] }
    let response : Message :=
      { request with
        response := true
        answers := [⟨.root, classInternet, 300, .other 65280 (List.replicate 520 0)⟩] }
    ∃ bytes, request.encodeForDatagram? response = some bytes ∧ 512 < response.octets.length ∧
      bytes.length ≤ 512 := by
  intro request response
  have length : response.octets.length = 548 := by
    rw [octets_eq]
    decide +kernel
  have encoded := response.encode?_of_le (by rw [length]; decide)
  have large : 512 < response.octets.length := by
    rw [length]
    decide
  have sent : request.encodeForDatagram? response = some response.truncate.octets := by
    rw [request.encodeForDatagram?_of_encode? encoded]
    exact congrArg some (if_neg (Nat.not_le.mpr large))
  exact ⟨_, sent, large, (encodeForDatagram?_fits_iff sent).2.2.2 (Nat.le_refl 1)⟩

/-- A refusal that repeats a hundred and one questions is cut and is still larger than the sender of
the request takes. -/
theorem encodeForDatagram?_many_questions :
    let question : Question := ⟨.root, RecordType.ns, classInternet⟩
    let request : Message := { id := 7, questions := List.replicate 101 question }
    decode request.octets = .ok request ∧
      ∃ bytes, request.encodeForDatagram? request.refused = some bytes ∧
        max 512 (request.edns.elim 0 fun edns => edns.payload.toNat) < bytes.length := by
  intro question request
  have bare : request.Bare := ⟨rfl, rfl, rfl, rfl⟩
  have written : request.writtenQuestions.length = 505 := by decide +kernel
  have read : request.octets.length = 517 := by rw [bare.length_octets, written]
  have whole : request.refused.octets.length = 517 :=
    (request.bare_replyTo ResponseCode.refused).length_octets.trans (congrArg (12 + ·) written)
  have cut : request.refused.truncate.octets.length = 517 :=
    request.refused.length_truncate.trans (congrArg (12 + ·) written)
  have encoded := request.refused.encode?_of_le (by rw [whole]; decide)
  have sent : request.encodeForDatagram? request.refused =
      some request.refused.truncate.octets := by
    rw [request.encodeForDatagram?_of_encode? encoded, whole]
    rfl
  refine ⟨bare.decode_octets (by decide) (by rw [read]; decide), _, sent, ?_⟩
  rw [cut]
  decide

/-- The lower bits of the response code, which the header has. -/
def lowerCode (message : Message) : Fin 4096 where
  val := message.responseCode.val % 16
  isLt := Nat.lt_trans (Nat.mod_lt _ (by decide)) (by decide)

/-- The lower bits of a response code are its remainder by sixteen. -/
theorem val_lowerCode (message : Message) : message.lowerCode.val = message.responseCode.val % 16 :=
  rfl

/-- A response code of four bits is all in its lower bits. -/
theorem lowerCode_eq_iff (message : Message) :
    message.lowerCode = message.responseCode ↔ message.responseCode.val < 16 := by
  rw [Fin.ext_iff, val_lowerCode]
  omega

/-- Without EDNS data only the lower bits of the response code are written. -/
theorem octets_of_lowerCode {message : Message} (bare : message.edns = none) :
    ({ message with responseCode := message.lowerCode } : Message).octets = message.octets := by
  simp only [octets_eq, headerBytes, highFlags, lowFlags, val_lowerCode, Nat.mod_mod, pieces,
    additionalSent, bare, Option.map_none]

/-- What is left of a reply that is cut, as it is read. -/
theorem decode_truncate {response : Message} (short : response.truncate.octets.length ≤ maxLength) :
    decode response.truncate.octets =
      .ok { response.truncate with responseCode := response.lowerCode } := by
  let read : Message := { response.truncate with responseCode := response.lowerCode }
  have bare : read.Bare := ⟨rfl, rfl, rfl, rfl⟩
  have code : read.responseCode.val < 16 := by
    change response.lowerCode.val < 16
    rw [val_lowerCode]
    exact Nat.mod_lt _ (by decide)
  have same : read.octets = response.truncate.octets := octets_of_lowerCode rfl
  rw [← same] at short ⊢
  exact bare.decode_octets code short

/-- A reply that is larger than the sender of the request takes is sent as a message without
records, marked as cut, that repeats the identifier, the kind of query, the wish for recursion and
its offer, the questions and the lower bits of the response code. These are all of the code if it
has no others. -/
theorem decode_encodeForDatagram?_of_lt (request : Message) {response : Message} {whole : Bytes}
    (encoded : response.encode? = some whole)
    (large : max 512 (request.edns.elim 0 fun edns => edns.payload.toNat) < whole.length) :
    ∃ bytes read, request.encodeForDatagram? response = some bytes ∧ decode bytes = .ok read ∧
      read.truncated = true ∧ read.response = true ∧ read.answers = [] ∧ read.authority = [] ∧
      read.additional = [] ∧ read.edns = none ∧ read.id = response.id ∧
      read.opcode = response.opcode ∧ read.recursionDesired = response.recursionDesired ∧
      read.recursionAvailable = response.recursionAvailable ∧ read.questions = response.questions ∧
      read.responseCode.val = response.responseCode.val % 16 ∧
      (read.responseCode = response.responseCode ↔ response.responseCode.val < 16) := by
  obtain ⟨rfl, short⟩ := eq_octets_of_encode? encoded
  rw [← toNat_maxPayload] at large
  have sent := request.encodeForDatagram?_of_encode? encoded
  rw [if_neg (Nat.not_le.mpr large)] at sent
  have read := decode_truncate (Nat.le_trans response.length_truncate_le short)
  exact ⟨_, _, sent, read, rfl, rfl, rfl, rfl, rfl, rfl, rfl, rfl, rfl, rfl, rfl,
    response.val_lowerCode, response.lowerCode_eq_iff⟩

/-- A refusal with a long record loses the record only. -/
theorem decode_encodeForDatagram?_of_lt_refused :
    let request : Message := { id := 7, questions := [⟨.root, 65280, classInternet⟩] }
    let response : Message :=
      { request.refused with
        answers := [⟨.root, classInternet, 300, .other 65280 (List.replicate 520 0)⟩] }
    ∃ bytes read, request.encodeForDatagram? response = some bytes ∧ decode bytes = .ok read ∧
      read.answers = [] ∧ read.questions = response.questions ∧
      read.responseCode = response.responseCode := by
  intro request response
  have length : response.octets.length = 548 := by
    rw [octets_eq]
    decide +kernel
  have encoded := response.encode?_of_le (by rw [length]; decide)
  obtain ⟨bytes, read, sent, decoded, -, -, answers, -, -, -, -, -, -, -, questions, -, code⟩ :=
    decode_encodeForDatagram?_of_lt request encoded (by rw [length]; decide)
  exact ⟨bytes, read, sent, decoded, answers, questions, code.mpr (by decide)⟩

/-- A response that says that the version of EDNS is not known, which takes the upper bits of the
response code, says that there is no error once it is cut. -/
theorem encodeForDatagram?_bad_version :
    let request : Message := { id := 7, questions := [⟨.root, RecordType.ns, classInternet⟩] }
    let response : Message :=
      { request.replyTo ⟨16, by decide⟩ with
        edns := some ⟨1232, 0, 0, [⟨12, List.replicate 500 0⟩]⟩ }
    decode response.octets = .ok response ∧
      ∃ bytes read, request.encodeForDatagram? response = some bytes ∧ decode bytes = .ok read ∧
        512 < response.octets.length ∧ read.responseCode = ResponseCode.noError ∧
        read.responseCode ≠ response.responseCode := by
  intro request response
  have length : response.octets.length = 532 := by
    rw [octets_eq]
    decide +kernel
  have encoded := response.encode?_of_le (by rw [length]; decide)
  have regular : response.Regular := by
    constructor
    case questions => exact (by decide : 1 < 65536)
    case answers => exact (by decide : 0 < 65536)
    case authority => exact (by decide : 0 < 65536)
    case additional => exact (by decide : 0 + 1 < 65536)
    case records => exact nofun
    case plain => exact nofun
    case payload =>
      rintro _ ⟨⟩
      exact (by decide : minPayload ≤ 1232)
    case options =>
      rintro _ ⟨⟩ option member
      obtain rfl := List.mem_singleton.mp member
      rw [EdnsOption.Fits, List.length_replicate]
      decide
    case code => exact nofun
  obtain ⟨bytes, read, sent, decoded, -, -, -, -, -, -, -, -, -, -, -, code, -⟩ :=
    decode_encodeForDatagram?_of_lt request encoded (by rw [length]; decide)
  have lower : read.responseCode.val = 16 % 16 := code
  have large : 512 < response.octets.length := by
    rw [length]
    decide
  refine ⟨decode_of_encode? regular nofun encoded, bytes, read, sent, decoded, large,
    Fin.ext lower, ?_⟩
  intro same
  rw [same] at lower
  exact nomatch lower

end Message

end DnsForwarder
