import Lockstep.Message

/-!
# Frames

On a stream every message is a frame: one byte for its kind, four bytes for the length of its
payload, most significant first, and the payload. Kinds below 128 are sent by the host and the
others by clients, so that a message that travels the wrong way is refused before its payload
is looked at.

`readFrame` takes the next frame from a stream and says what it leaves. A kind that is not known
does not stop a stream: its payload is passed over, and the error that is reported is one
after which reading may go on (`FrameError.isRecoverable`).
-/

set_option autoImplicit false

namespace Lockstep

open Bytes (bigEndian readBig takeExactly)

/-- The version of the protocol. -/
def protocolVersion : UInt16 := 2

/-- The length of a header. -/
def headerLength : Nat := 5

/-- The longest payload that may be sent. -/
def maxPayloadLength : Nat := 0x100000

/-! ## Directions -/

/-- Which way a message travels. -/
inductive Direction where
  | serverToClient | clientToServer
  deriving DecidableEq, Inhabited

/-- The text of a direction. -/
def Direction.text : Direction → String
  | .serverToClient => "server-to-client"
  | .clientToServer => "client-to-server"

/-- Kinds from 128 on are sent by clients. -/
def MessageKind.direction (kind : MessageKind) : Direction :=
  if Enumeration.code kind < 128 then .serverToClient else .clientToServer

/-! ## Errors -/

/-- Why a frame cannot be read or written. -/
inductive FrameError where
  | truncatedHeader
  | unknownMessageKind (kind : UInt8) (length : Nat)
  | wrongDirection (kind : MessageKind) (expected : Direction)
  | payloadTooLarge (length : Nat)
  | lengthMismatch (expected actual : Nat)
  /-- The payload is not a message of its kind. -/
  | payloadDecode
  /-- The stream ended inside a frame. -/
  | endOfStream
  deriving DecidableEq, Inhabited

namespace FrameError

/-- Whether the stream stands at the beginning of a frame after the error. -/
def isRecoverable : FrameError → Bool
  | .unknownMessageKind .. | .wrongDirection .. | .payloadDecode => true
  | _ => false

/-- The text of an error. -/
def message : FrameError → String
  | .truncatedHeader => "header smaller than " ++ toString headerLength ++ " bytes"
  | .unknownMessageKind kind length =>
    "message kind " ++ toString kind.toNat ++ " is unknown (" ++ toString length ++ " byte payload)"
  | .wrongDirection kind expected =>
    Enumeration.title kind ++ " message is not valid on a " ++ expected.text ++ " channel"
  | .payloadTooLarge length =>
    "payload of " ++ toString length ++ " bytes exceeds the " ++ toString maxPayloadLength ++
      " byte limit"
  | .lengthMismatch expected actual =>
    "payload length mismatch: header declared " ++ toString expected ++ " bytes but read " ++
      toString actual
  | .payloadDecode => "payload decode error"
  | .endOfStream => "stream read error: failed to fill whole buffer"

end FrameError

/-! ## Headers -/

/-- The kind of a message and the length of its payload. -/
structure MessageHeader where
  kind : MessageKind
  length : UInt32
  deriving DecidableEq, Inhabited

namespace MessageHeader

/-- The five bytes of a header. -/
def encode (header : MessageHeader) : Bytes :=
  Enumeration.code header.kind :: bigEndian 4 header.length.toNat

/-- The header that a byte string begins with. The length is checked before the kind. -/
def decode (bytes : Bytes) : Except FrameError MessageHeader :=
  match bytes with
  | code :: rest =>
    match readBig 4 rest with
    | none => .error .truncatedHeader
    | some (length, _) =>
      if maxPayloadLength < length then .error (.payloadTooLarge length)
      else
        match Enumeration.ofCode? code with
        | some kind => .ok ⟨kind, UInt32.ofNat length⟩
        | none => .error (.unknownMessageKind code length)
  | [] => .error .truncatedHeader

end MessageHeader

/-! ## Writing -/

/-- The frame of a payload. A payload that is too long has none. -/
def encodeFrame (kind : MessageKind) (payload : Datum) : Except FrameError Bytes :=
  let bytes := Packed.write payload
  let length := bytes.length
  if maxPayloadLength < length then .error (.lengthMismatch maxPayloadLength length)
  else .ok (MessageHeader.encode ⟨kind, UInt32.ofNat length⟩ ++ bytes)

/-- The frame of a message of the host. -/
def ServerMessage.encode (message : ServerMessage) : Except FrameError Bytes :=
  encodeFrame message.kind message.payload

/-- The frame of a message of a client. -/
def ClientMessage.encode (message : ClientMessage) : Except FrameError Bytes :=
  encodeFrame message.kind message.payload

/-! ## Reading -/

/-- The payload of a message that travels the right way, as a datum. -/
def decodePayload {α : Type} (expected : Direction) (read : MessageKind → Datum → Option α)
    (header : MessageHeader) (payload : Bytes) : Except FrameError α :=
  if header.kind.direction ≠ expected then .error (.wrongDirection header.kind expected)
  else
    match (Packed.read payload).bind fun (datum, _) => read header.kind datum with
    | some message => .ok message
    | none => .error .payloadDecode

/-- The message of the host with a header and a payload. -/
def ServerMessage.decode (header : MessageHeader) (payload : Bytes) :
    Except FrameError ServerMessage :=
  decodePayload .serverToClient (ServerMessage.ofPayload? .packed) header payload

/-- The message of a client with a header and a payload. -/
def ClientMessage.decode (header : MessageHeader) (payload : Bytes) :
    Except FrameError ClientMessage :=
  decodePayload .clientToServer (ClientMessage.ofPayload? .packed) header payload

/-- The header and the payload of a byte string that is one frame and nothing else. -/
def decodeEnvelope (bytes : Bytes) : Except FrameError (MessageHeader × Bytes) := do
  let header ← MessageHeader.decode bytes
  let payload := bytes.drop headerLength
  if payload.length = header.length.toNat then .ok (header, payload)
  else .error (.lengthMismatch header.length.toNat payload.length)

/-- The header and the payload of the next frame of a stream, and what the stream still holds
afterwards. A frame that the end of the stream cuts off uses the stream up, whatever its
kind, except that the payload of an unknown kind may be cut off unnoticed. -/
def readFrame (stream : Bytes) : Except FrameError (MessageHeader × Bytes) × Bytes :=
  match takeExactly headerLength stream with
  | none => (.error .endOfStream, [])
  | some (header, rest) =>
    match MessageHeader.decode header with
    | .ok header =>
      match takeExactly header.length.toNat rest with
      | some (payload, rest) => (.ok (header, payload), rest)
      | none => (.error .endOfStream, [])
    | .error (.unknownMessageKind kind length) =>
      (.error (.unknownMessageKind kind length), rest.drop length)
    | .error error => (.error error, rest)

/-- What the next frame of a stream holds, once its payload is read too. -/
def readMessage {α : Type} (decode : MessageHeader → Bytes → Except FrameError α)
    (stream : Bytes) : Except FrameError α × Bytes :=
  match readFrame stream with
  | (.ok (header, payload), rest) => (decode header payload, rest)
  | (.error error, rest) => (.error error, rest)

/-- The results of reading a stream, frame after frame, up to the first error after which
reading cannot go on. Each comes with what the stream still holds after it. The first number
bounds the frames, each of which takes at least its header. -/
def readMessagesWithin {α : Type} (decode : MessageHeader → Bytes → Except FrameError α) :
    Nat → Bytes → List (Except FrameError α × Bytes)
  | 0, _ => []
  | bound + 1, stream =>
    let (result, rest) := readMessage decode stream
    let goesOn := match result with
      | .ok _ => true
      | .error error => error.isRecoverable
    (result, rest) :: if goesOn then readMessagesWithin decode bound rest else []

/-- The results of reading a whole stream. -/
def readMessages {α : Type} (decode : MessageHeader → Bytes → Except FrameError α)
    (stream : Bytes) : List (Except FrameError α × Bytes) :=
  readMessagesWithin decode (stream.length / headerLength + 1) stream

end Lockstep
