import DnsForwarder.Message.Frame
import Mathlib.Data.List.Basic

/-!
# Frames form a prefix code

Messages that were written to a stream are read from it again, one for one, and then the end of the
stream is noticed. The other way round, what is read from any stream makes up the stream when it is
written again, but for a rest that begins with no frame
(`DnsForwarder.Frame.decodeAll_inverts_writeAll`).
-/

namespace DnsForwarder.Frame

/-- No frame of a message stands at the front of a stream. -/
def Incomplete (stream : Bytes) : Prop :=
  ∀ message frame, encode message = .ok frame → ¬frame <+: stream

variable {stream message frame rest : Bytes}

/-- A message that fits a frame has its length in front. -/
theorem encode_of_le (fits : message.length ≤ maxLength) :
    encode message = .ok (Bytes.ofUInt16 (UInt16.ofNat message.length) ++ message) :=
  if_pos fits

/-- A message that is too long for a frame is refused with its length. -/
theorem encode_of_lt (long : maxLength < message.length) :
    encode message = .error (.invalidInput (tooLong message.length)) :=
  if_neg (Nat.not_le.mpr long)

/-- A message in a frame is not too long for one. -/
theorem le_of_encode (encoded : encode message = .ok frame) : message.length ≤ maxLength := by
  by_contra long
  rw [encode_of_lt (Nat.not_le.mp long)] at encoded
  exact nomatch encoded

/-- A frame is read as its message, whatever follows it. -/
theorem decode_append (encoded : encode message = .ok frame) (rest : Bytes) :
    decode (frame ++ rest) = .ok (message, rest) := by
  have fits := le_of_encode encoded
  rw [encode_of_le fits] at encoded
  obtain rfl := Except.ok.inj encoded
  have short : message.length < 65536 := Nat.lt_succ_of_le fits
  have counted : (UInt16.ofNat message.length).toNat = message.length :=
    UInt16.toNat_ofNat_of_lt' short
  have inside : message.length ≤ (message ++ rest).length := by
    rw [List.length_append]
    exact Nat.le_add_right _ _
  generalize UInt16.ofNat message.length = word at counted ⊢
  simp only [Bytes.ofUInt16, List.cons_append, List.nil_append, decode, Bytes.toUInt16_ofUInt16]
  rw [counted, if_pos inside, List.take_left, List.drop_left]

/-- Nothing but a frame is read as a message. -/
theorem exists_frame_of_decode (read : decode stream = .ok (message, rest)) :
    ∃ frame, encode message = .ok frame ∧ stream = frame ++ rest := by
  unfold decode at read
  split at read
  next high low octets =>
    dsimp only at read
    split at read
    next inside =>
      obtain ⟨rfl, rfl⟩ := Prod.mk.inj (Except.ok.inj read)
      have length : (octets.take (Bytes.toUInt16 high low).toNat).length =
          (Bytes.toUInt16 high low).toNat := List.length_take_of_le inside
      have fits : (octets.take (Bytes.toUInt16 high low).toNat).length ≤ maxLength := by
        rw [length]
        exact Nat.le_of_lt_succ (Bytes.toUInt16 high low).toNat_lt
      refine ⟨_, encode_of_le fits, ?_⟩
      rw [length, UInt16.ofNat_toNat, Bytes.ofUInt16_toUInt16, List.append_assoc,
        List.take_append_drop]
      rfl
    · exact nomatch read
  · exact nomatch read

/-- Reading a frame fails only where the stream ends. -/
theorem fault_of_decode {fault : Fault} (ended : decode stream = .error fault) :
    fault = .unexpectedEnd := by
  unfold decode at ended
  split at ended
  · dsimp only at ended
    split at ended
    · exact nomatch ended
    · exact (Except.error.inj ended).symm
  · exact (Except.error.inj ended).symm

/-- Reading fails exactly if no frame stands in front. -/
theorem decode_eq_error_iff : decode stream = .error .unexpectedEnd ↔ Incomplete stream := by
  constructor
  · rintro ended message frame encoded ⟨rest, rfl⟩
    rw [decode_append encoded] at ended
    exact nomatch ended
  · intro incomplete
    cases read : decode stream with
    | error fault => rw [fault_of_decode read]
    | ok pair =>
      obtain ⟨message, rest⟩ := pair
      obtain ⟨frame, encoded, rfl⟩ := exists_frame_of_decode read
      exact absurd (List.prefix_append frame rest) (incomplete message frame encoded)

/-- Frames are read one after the other. -/
theorem decodeAll_of_ok (read : decode stream = .ok (message, rest)) :
    decodeAll stream = (message :: (decodeAll rest).1, (decodeAll rest).2) := by
  rw [decodeAll]
  split
  next found _ same =>
    obtain ⟨rfl, rfl⟩ := Prod.mk.inj (Except.ok.inj (read.symm.trans same))
    rfl
  next fault same => cases read.symm.trans same

/-- Where no frame is left, nothing more is read. -/
theorem decodeAll_of_incomplete (incomplete : Incomplete stream) :
    decodeAll stream = ([], .unexpectedEnd, stream) := by
  have ended := decode_eq_error_iff.mpr incomplete
  rw [decodeAll]
  split
  next found _ same => cases ended.symm.trans same
  next fault same => rw [Except.error.inj (ended.symm.trans same)]

/-- In an empty stream there is no frame. -/
theorem incomplete_nil : Incomplete [] := decode_eq_error_iff.mp rfl

/-- A message that fits is put behind the stream. -/
theorem write_of_encode (encoded : encode message = .ok frame) (stream : Bytes) :
    write stream message = (.ok (), stream ++ frame) := by
  rw [write, encoded]

/-- A message that is too long leaves the stream as it is. -/
theorem write_of_lt (long : maxLength < message.length) (stream : Bytes) :
    write stream message = (.error (.invalidInput (tooLong message.length)), stream) := by
  rw [write, encode_of_lt long]

/-- Messages are written one after the other. -/
theorem writeAll_cons (encoded : encode message = .ok frame) (stream : Bytes)
    (messages : List Bytes) :
    writeAll stream (message :: messages) = writeAll (stream ++ frame) messages := by
  rw [writeAll, List.foldl_cons, write_of_encode encoded]
  rfl

/-- What stands in a stream already stays there. -/
theorem writeAll_append (front stream : Bytes) (messages : List Bytes) :
    writeAll (front ++ stream) messages = front ++ writeAll stream messages := by
  induction messages generalizing stream with
  | nil => rfl
  | cons message messages ih =>
    by_cases fits : message.length ≤ maxLength
    · rw [writeAll_cons (encode_of_le fits), writeAll_cons (encode_of_le fits),
        List.append_assoc, ih]
    · have long := Nat.not_le.mp fits
      simp only [writeAll, List.foldl_cons, write_of_lt long] at ih ⊢
      exact ih stream

/-- What is written first stands in front. -/
theorem writeAll_cons_nil (encoded : encode message = .ok frame) (messages : List Bytes) :
    writeAll [] (message :: messages) = frame ++ writeAll [] messages := by
  rw [writeAll_cons encoded, List.nil_append, ← writeAll_append, List.append_nil]

/-- Messages that were written are read, and reading goes on with what follows them. -/
theorem decodeAll_writeAll_append {messages : List Bytes}
    (fit : ∀ message ∈ messages, message.length ≤ maxLength) (rest : Bytes) :
    decodeAll (writeAll [] messages ++ rest) =
      (messages ++ (decodeAll rest).1, (decodeAll rest).2) := by
  induction messages with
  | nil => rfl
  | cons message messages ih =>
    obtain ⟨first, others⟩ := List.forall_mem_cons.mp fit
    have encoded := encode_of_le first
    rw [writeAll_cons_nil encoded, List.append_assoc, decodeAll_of_ok (decode_append encoded _),
      ih others]
    rfl

/-- Frames that were written are read again, and nothing is left of the stream. -/
theorem decodeAll_writeAll {messages : List Bytes}
    (fit : ∀ message ∈ messages, message.length ≤ maxLength) :
    decodeAll (writeAll [] messages) = (messages, .unexpectedEnd, []) := by
  have read := decodeAll_writeAll_append fit []
  rw [List.append_nil, decodeAll_of_incomplete incomplete_nil, List.append_nil] at read
  exact read

/-- What is read from a stream makes up the stream, but for a rest without a frame in front. -/
theorem decodeAll_cases (stream : Bytes) :
    ∃ messages rest, decodeAll stream = (messages, .unexpectedEnd, rest) ∧
      (∀ message ∈ messages, message.length ≤ maxLength) ∧
      writeAll [] messages ++ rest = stream ∧ Incomplete rest := by
  induction size : stream.length using Nat.strongRecOn generalizing stream with
  | _ size ih =>
    cases read : decode stream with
    | error fault =>
      have incomplete := decode_eq_error_iff.mp (fault_of_decode read ▸ read)
      exact ⟨[], stream, decodeAll_of_incomplete incomplete, nofun, rfl, incomplete⟩
    | ok pair =>
      obtain ⟨message, others⟩ := pair
      have shorter := length_of_decode read
      obtain ⟨messages, rest, same, fit, whole, incomplete⟩ := ih _ (size ▸ shorter) others rfl
      obtain ⟨frame, encoded, rfl⟩ := exists_frame_of_decode read
      refine ⟨message :: messages, rest, ?_, ?_, ?_, incomplete⟩
      · rw [decodeAll_of_ok read, same]
      · exact List.forall_mem_cons.mpr ⟨le_of_encode encoded, fit⟩
      · rw [writeAll_cons_nil encoded, List.append_assoc, whole]

/-- Messages that fit a frame are all taken by a stream and are read from it again, up to its end;
one that does not fit is refused and leaves the stream as it is; and whatever octets a stream has,
the messages that are read from it make up its front, and the rest begins with no frame. -/
theorem decodeAll_inverts_writeAll :
    (∀ messages : List Bytes, (∀ message ∈ messages, message.length ≤ maxLength) →
      decodeAll (writeAll [] messages) = (messages, .unexpectedEnd, []) ∧
      ∀ message ∈ messages, ∀ stream,
        write stream message =
          (.ok (), stream ++ Bytes.ofUInt16 (UInt16.ofNat message.length) ++ message)) ∧
    (∀ stream message : Bytes, maxLength < message.length →
      write stream message = (.error (.invalidInput (tooLong message.length)), stream)) ∧
    ∀ stream : Bytes, ∃ messages rest,
      decodeAll stream = (messages, .unexpectedEnd, rest) ∧
      (∀ message ∈ messages, message.length ≤ maxLength) ∧
      writeAll [] messages ++ rest = stream ∧ Incomplete rest := by
  refine ⟨fun messages fit => ⟨decodeAll_writeAll fit, fun message member stream => ?_⟩,
    fun stream message long => write_of_lt long stream, decodeAll_cases⟩
  rw [write_of_encode (encode_of_le (fit message member)), List.append_assoc]

/-- An empty message and one whose length takes both octets are read again, and a message of one
octet more than a frame holds is refused. -/
theorem decodeAll_inverts_writeAll_empty :
    decodeAll (writeAll [] [[], List.replicate 256 7]) =
        ([[], List.replicate 256 7], .unexpectedEnd, []) ∧
      ∀ stream, (write stream (List.replicate 65536 0)).2 = stream := by
  obtain ⟨read, refused, -⟩ := decodeAll_inverts_writeAll
  refine ⟨(read _ ?_).1, fun stream => ?_⟩
  · rintro message (_ | ⟨_, _ | ⟨_, ⟨⟩⟩⟩)
    · exact Nat.zero_le _
    · rw [List.length_replicate]
      decide
  · rw [refused stream _ (by rw [List.length_replicate]; decide)]

end DnsForwarder.Frame
