import DnsForwarder.Bytes

/-!
# Frames

On a stream, each message has its length in front, as a word of two octets.
-/

namespace DnsForwarder.Frame

/-- The most octets that a frame can hold. -/
abbrev maxLength : Nat := 65535

/-- Why a message is not written to a stream or not read from it. -/
inductive Fault where
  /-- No frame can hold the message. -/
  | invalidInput (text : String)
  /-- The stream ends before the frame does. -/
  | unexpectedEnd
deriving DecidableEq, Repr

/-- What is said of a message that no frame can hold. -/
def tooLong (length : Nat) : String := s!"message of {length} bytes does not fit a TCP frame"

/-- A message with its length in front. -/
def encode (message : Bytes) : Except Fault Bytes :=
  if message.length ≤ maxLength then
    .ok (Bytes.ofUInt16 (UInt16.ofNat message.length) ++ message)
  else
    .error (.invalidInput (tooLong message.length))

/-- The frame of a message, if there is one. -/
def encode? (message : Bytes) : Option Bytes := (encode message).toOption

/-- Writes a message at the end of a stream, which stays as it is if no frame can hold the
message. -/
def write (stream message : Bytes) : Except Fault Unit × Bytes :=
  match encode message with
  | .ok frame => (.ok (), stream ++ frame)
  | .error fault => (.error fault, stream)

/-- The stream after messages were written one after the other. -/
def writeAll (stream : Bytes) (messages : List Bytes) : Bytes :=
  messages.foldl (fun stream message => (write stream message).2) stream

/-- The first message of a stream and what follows it. -/
def decode : Bytes → Except Fault (Bytes × Bytes)
  | high :: low :: rest =>
    let length := (Bytes.toUInt16 high low).toNat
    if length ≤ rest.length then .ok (rest.take length, rest.drop length) else .error .unexpectedEnd
  | _ => .error .unexpectedEnd

/-- A frame that is read leaves a shorter rest. -/
theorem length_of_decode {stream message rest : Bytes}
    (read : decode stream = .ok (message, rest)) :
    rest.length < stream.length := by
  unfold decode at read
  split at read
  · simp only at read
    split at read
    · obtain ⟨-, rfl⟩ := Prod.mk.inj (Except.ok.inj read)
      simp only [List.length_drop, List.length_cons]
      omega
    · exact nomatch read
  · exact nomatch read

/-- The messages of a stream up to the first one that cannot be read, why that cannot, and the
stream from there on. -/
def decodeAll (stream : Bytes) : List Bytes × Fault × Bytes :=
  match read : decode stream with
  | .ok (message, rest) =>
    have : rest.length < stream.length := length_of_decode read
    let (messages, left) := decodeAll rest
    (message :: messages, left)
  | .error fault => ([], fault, stream)
termination_by stream.length

end DnsForwarder.Frame
