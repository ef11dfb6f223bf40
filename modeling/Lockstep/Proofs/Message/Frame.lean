import Lockstep.Message.Frame
import Lockstep.Proofs.Message.RoundTrip

/-!
# Messages in frames

A `RawFrame` is what a stream is made of: any code where the kind of a message should be, and any
payload that is not too long. Reading one takes exactly its bytes, whether the code is that of a
kind or not (`RawFrame.readFrame_bytes_append`).

A message is sent in such a frame, unless its payload is too long. The side that it is meant for
reads it back from there, and the other side refuses it (`messages_framed`).
-/

set_option autoImplicit false

namespace Lockstep

open Bytes (bigEndian readBig takeExactly capacity)

/-! ## Frames as they stand in a stream -/

/-- A frame of which nothing is known but its bounds: a code where the kind should be, and a payload
that is not too long. -/
structure RawFrame where
  code : UInt8
  payload : Bytes
  short : payload.length ≤ maxPayloadLength

namespace RawFrame

/-- The bytes before the payload. -/
def header (frame : RawFrame) : Bytes := frame.code :: bigEndian 4 frame.payload.length

/-- The bytes of a frame. -/
def bytes (frame : RawFrame) : Bytes := frame.header ++ frame.payload

/-- The header and the payload of a frame, if its code is that of a kind. -/
def parts (frame : RawFrame) : Except FrameError (MessageHeader × Bytes) :=
  match Enumeration.ofCode? frame.code with
  | some kind => .ok (⟨kind, UInt32.ofNat frame.payload.length⟩, frame.payload)
  | none => .error (.unknownMessageKind frame.code frame.payload.length)

theorem length_header (frame : RawFrame) : frame.header.length = headerLength := by
  rw [header, List.length_cons, Bytes.length_bigEndian]
  rfl

/-- The length of a payload fits into the four bytes of a header. -/
theorem length_lt (frame : RawFrame) : frame.payload.length < capacity 4 :=
  Nat.lt_of_le_of_lt frame.short (by decide)

theorem toNat_length (frame : RawFrame) :
    (UInt32.ofNat frame.payload.length).toNat = frame.payload.length :=
  UInt32.toNat_ofNat_of_lt' frame.length_lt

theorem decode_header_append (frame : RawFrame) (rest : Bytes) :
    MessageHeader.decode (frame.header ++ rest) = frame.parts.map Prod.fst := by
  rw [header, List.cons_append, MessageHeader.decode, Bytes.readBig_bigEndian _ _ _ frame.length_lt]
  simp only [if_neg (Nat.not_lt.mpr frame.short), parts]
  cases (Enumeration.ofCode? frame.code : Option MessageKind) <;> rfl

/-- **Reading a frame takes no more and no less than the
frame**, also when its kind is not known. -/
theorem readFrame_bytes_append (frame : RawFrame) (rest : Bytes) :
    readFrame (frame.bytes ++ rest) = (frame.parts, rest) := by
  have header := Bytes.takeExactly_append frame.header (frame.payload ++ rest)
  have payload := Bytes.takeExactly_append frame.payload rest
  have decoded := frame.decode_header_append []
  rw [length_header] at header
  rw [List.append_nil] at decoded
  rw [bytes, List.append_assoc, readFrame, header]
  simp only [decoded, parts]
  cases (Enumeration.ofCode? frame.code : Option MessageKind) with
  | none => simp [Except.map]
  | some kind => simp only [Except.map, toNat_length, payload]

/-- A frame that stands alone is read in the same way. -/
theorem decodeEnvelope_bytes (frame : RawFrame) : decodeEnvelope frame.bytes = frame.parts := by
  have payload : frame.bytes.drop headerLength = frame.payload := by
    rw [bytes, ← frame.length_header, List.drop_left]
  rw [decodeEnvelope, payload, bytes, decode_header_append, parts]
  cases (Enumeration.ofCode? frame.code : Option MessageKind) with
  | none => rfl
  | some kind => exact if_pos frame.toNat_length.symm

end RawFrame

/-! ## Messages in frames -/

theorem ServerMessage.ofPayload?_payload (encoding : Encoding) (message : ServerMessage) :
    ServerMessage.ofPayload? encoding message.kind message.payload = some message := by
  cases message with
  | broadcastTick tick =>
    show (Written.read encoding (Written.write tick)).map broadcastTick = some (broadcastTick tick)
    rw [LawfulWritten.read_write, Option.map_some]
  | direct content =>
    show (Written.read encoding (Written.write content)).map direct = some (direct content)
    rw [LawfulWritten.read_write, Option.map_some]
  | avatarData data =>
    show (Written.read encoding (Written.write data)).map avatarData = some (avatarData data)
    rw [LawfulWritten.read_write, Option.map_some]

theorem ClientMessage.ofPayload?_payload (encoding : Encoding) (message : ClientMessage) :
    ClientMessage.ofPayload? encoding message.kind message.payload = some message := by
  cases message with
  | command request =>
    show (Written.read encoding (Written.write request)).map command = some (command request)
    rw [LawfulWritten.read_write, Option.map_some]

theorem ServerMessage.shallow_payload (message : ServerMessage) : message.payload.Shallow 5 := by
  cases message with
  | broadcastTick tick => exact shallow_write tick (by decide)
  | direct content => exact shallow_write content (by decide)
  | avatarData data => exact shallow_write data (by decide)

theorem ClientMessage.shallow_payload (message : ClientMessage) : message.payload.Shallow 5 := by
  cases message with
  | command request => exact shallow_write request (by decide)

theorem ServerMessage.direction_kind (message : ServerMessage) :
    message.kind.direction = .serverToClient := by
  cases message <;> rfl

theorem ClientMessage.direction_kind (message : ClientMessage) :
    message.kind.direction = .clientToServer := rfl

theorem ofCode?_code (kind : MessageKind) :
    Enumeration.ofCode? (Enumeration.code kind) = some kind := by
  cases kind <;> rfl

/-- What there is to say of a message, of its kind and payload, and of the frame that it is sent in,
if there is one. -/
structure Framed {α β : Type} (message : α) (kind : MessageKind) (payload : Bytes)
    (encoded : Except FrameError Bytes) (decode : MessageHeader → Bytes → Except FrameError α)
    (refuse : MessageHeader → Bytes → Except FrameError β) (expected : Direction) : Prop where
  /-- Only a payload that is too long has no frame. -/
  encodes : (∃ frame, encoded = .ok frame) ↔ payload.length ≤ maxPayloadLength
  /-- The frame tells the kind and the payload, both alone and in a stream, whatever follows. The
  side that the message is meant for gets it back, and the other side sees that it is not. -/
  decodes : ∀ frame, encoded = .ok frame →
    ∃ header : MessageHeader, header.kind = kind ∧ header.length.toNat = payload.length ∧
      decodeEnvelope frame = .ok (header, payload) ∧
      (∀ rest, readFrame (frame ++ rest) = (.ok (header, payload), rest)) ∧
      decode header payload = .ok message ∧
      refuse header payload = .error (.wrongDirection kind expected)

section

variable {α β : Type} {message : α} {kind : MessageKind} {payload : Datum}
  {read : MessageKind → Datum → Option α} {other : MessageKind → Datum → Option β}
  {own expected : Direction} {levels : Nat}

/-- What is sent is a frame. -/
theorem encodeFrame_eq_ok {frame : Bytes} (encoded : encodeFrame kind payload = .ok frame) :
    ∃ raw : RawFrame, raw.code = Enumeration.code kind ∧ raw.payload = Packed.write payload ∧
      frame = raw.bytes := by
  rw [encodeFrame] at encoded
  by_cases exceeds : maxPayloadLength < (Packed.write payload).length
  · rw [if_pos exceeds] at encoded
    cases encoded
  · rw [if_neg exceeds] at encoded
    let raw : RawFrame := ⟨Enumeration.code kind, Packed.write payload, Nat.not_lt.mp exceeds⟩
    refine ⟨raw, rfl, rfl, ?_⟩
    have length : (UInt32.ofNat (Packed.write payload).length).toNat =
      (Packed.write payload).length := raw.toNat_length
    rw [MessageHeader.encode, length] at encoded
    exact (Except.ok.inj encoded).symm

/-- Frames carry any payload that is read as the message it was made of. -/
theorem framed_encodeFrame (shallow : payload.Shallow levels) (few : levels < 1024)
    (readable : read kind payload = some message) (sent : kind.direction = own)
    (apart : own ≠ expected) :
    Framed message kind (Packed.write payload) (encodeFrame kind payload) (decodePayload own read)
      (decodePayload expected other) expected := by
  constructor
  case encodes =>
    rw [encodeFrame]
    by_cases exceeds : maxPayloadLength < (Packed.write payload).length
    · rw [if_pos exceeds]
      exact iff_of_false (fun ⟨_, encoded⟩ => nomatch encoded) (Nat.not_le.mpr exceeds)
    · rw [if_neg exceeds]
      exact iff_of_true ⟨_, rfl⟩ (Nat.not_lt.mp exceeds)
  case decodes =>
    intro frame encoded
    obtain ⟨raw, code, content, rfl⟩ := encodeFrame_eq_ok encoded
    have parts : raw.parts = .ok (⟨kind, UInt32.ofNat raw.payload.length⟩, raw.payload) := by
      rw [RawFrame.parts, code, ofCode?_code]
    have size : payload.size ≤ maxPayloadLength := by
      rw [Datum.size, ← content]
      exact raw.short
    have unpacked := shallow.read_write few (Nat.lt_of_le_of_lt size (by decide)) []
    rw [List.append_nil] at unpacked
    rw [← content]
    refine ⟨⟨kind, UInt32.ofNat raw.payload.length⟩, rfl, raw.toNat_length, ?_, ?_, ?_, ?_⟩
    · rw [raw.decodeEnvelope_bytes, parts]
    · intro rest
      rw [raw.readFrame_bytes_append, parts]
    · rw [decodePayload, if_neg (not_not.mpr sent), content, unpacked, Option.bind_some]
      simp only [readable]
    · rw [decodePayload, if_pos (sent ▸ apart)]

end

/-- **Every message has a frame, unless its payload is too long, and is read back from it**, by the
side that it is meant for and by no other. -/
theorem messages_framed :
    (∀ message : ServerMessage,
      Framed message message.kind (Packed.write message.payload) message.encode ServerMessage.decode
        ClientMessage.decode .clientToServer) ∧
      ∀ message : ClientMessage,
        Framed message message.kind (Packed.write message.payload) message.encode
          ClientMessage.decode ServerMessage.decode .serverToClient := by
  refine ⟨fun message => ?_, fun message => ?_⟩
  · exact framed_encodeFrame message.shallow_payload (by decide) (message.ofPayload?_payload .packed)
      message.direction_kind (by decide)
  · exact framed_encodeFrame message.shallow_payload (by decide) (message.ofPayload?_payload .packed)
      message.direction_kind (by decide)

/-- A tick in which a client joins and an entity changes, sent with another byte after it. -/
theorem messages_framed_tick :
    let summary : EntitySummary := ⟨⟨-1, 0x10000⟩, [-0x8000, 300], none, some 9, 1, 0⟩
    let message : ServerMessage := .broadcastTick
      { tick := 0xFFFFFFFFFFFFFFFF
        seed := 7
        commands := [⟨1, 2, ⟨3⟩, .join "Zoë"⟩, ⟨2, 2, ⟨3⟩, .leave⟩]
        deltas := [⟨⟨1⟩, .updated summary⟩, ⟨⟨2⟩, .despawned⟩]
        status := .threadErrors 2
        stateHash := [0xFF, 0x00] }
    ∃ frame header payload, message.encode = .ok frame ∧
      decodeEnvelope frame = .ok (header, payload) ∧
      readFrame (frame ++ [0x80]) = (.ok (header, payload), [0x80]) ∧
      ServerMessage.decode header payload = .ok message ∧
      ClientMessage.decode header payload =
        .error (.wrongDirection .broadcastTick .clientToServer) := by
  intro summary message
  have framed := messages_framed.1 message
  have short : (Packed.write message.payload).length ≤ maxPayloadLength := by decide +kernel
  obtain ⟨frame, encoded⟩ := framed.encodes.mpr short
  obtain ⟨header, _, _, envelope, read, decoded, refused⟩ := framed.decodes frame encoded
  exact ⟨frame, header, _, encoded, envelope, read [0x80], decoded, refused⟩

end Lockstep
