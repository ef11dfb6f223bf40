import Lockstep.Behavior.Library
import Lockstep.Message.Frame
import Lockstep.Relay
import Lockstep.Replica
import Lockstep.World

/-!
# Errors as data

Tools that are not people tell errors apart by a word. An error as data is a map with the word for
its kind, its text, and what else a tool needs to go on: whether an operand is at fault or its
opcode, whether a stream can be read further, and what an error follows from. Where an error only
passes on that something could not be read at all, there is no text.
-/

set_option autoImplicit false

namespace Lockstep

/-- An error without a text. -/
def bareDiagnosis (kind : String) (details : List (String × Datum)) : Datum :=
  .record (("error", .text kind) :: details)

/-- An error with its text. -/
def diagnosis (kind message : String) (details : List (String × Datum)) : Datum :=
  bareDiagnosis kind (("message", .text message) :: details)

/-- What is wrong with an operand. -/
def OperandError.diagnosis (cause : OperandError) : Datum :=
  let kind := match cause with
    | .truncated .. => "Truncated"
    | .invalidField .. => "InvalidField"
    | .unknownPrimitive _ => "UnknownPrimitive"
  Lockstep.diagnosis kind cause.message [("malformed", .bool cause.isMalformed)]

/-- What is wrong with a behavior. -/
def BehaviorError.diagnosis (cause : BehaviorError) : Datum :=
  match cause with
  | .truncated => bareDiagnosis "Truncated" []
  | .badMagic => Lockstep.diagnosis "BadMagic" cause.message []
  | .unsupportedVersion _ => Lockstep.diagnosis "UnsupportedVersion" cause.message []
  | .badName => Lockstep.diagnosis "BadName" cause.message []
  | .tooManyInstructions .. => Lockstep.diagnosis "TooManyInstructions" cause.message []
  | .targetOutOfRange .. => Lockstep.diagnosis "TargetOutOfRange" cause.message []
  | .invalidCallTarget .. => Lockstep.diagnosis "InvalidCallTarget" cause.message []
  | .operand .. => Lockstep.diagnosis "Operand" cause.message []

/-- Why a behavior is not in a library. -/
def DuplicateBehavior.diagnosis (cause : DuplicateBehavior) : Datum :=
  Lockstep.diagnosis "Duplicate" cause.message []

/-- What is wrong with a frame. -/
def FrameError.diagnosis (cause : FrameError) : Datum :=
  let details := [("recoverable", Datum.bool cause.isRecoverable)]
  match cause with
  | .truncatedHeader => Lockstep.diagnosis "TruncatedHeader" cause.message details
  | .unknownMessageKind .. => Lockstep.diagnosis "UnknownMessageKind" cause.message details
  | .wrongDirection .. => Lockstep.diagnosis "WrongDirection" cause.message details
  | .payloadTooLarge _ => Lockstep.diagnosis "PayloadTooLarge" cause.message details
  | .lengthMismatch .. => Lockstep.diagnosis "LengthMismatch" cause.message details
  | .payloadDecode => bareDiagnosis "PayloadDecode" details
  | .endOfStream => bareDiagnosis "Io" details

/-- Why a broadcast is refused. -/
def RouteError.diagnosis (cause : RouteError) : Datum :=
  match cause with
  | .staleTick .. => Lockstep.diagnosis "StaleTick" cause.message []
  | .duplicateTick _ => Lockstep.diagnosis "DuplicateTick" cause.message []

/-- Why a command is rejected. -/
def Rejection.diagnosis (cause : Rejection) : Datum :=
  let kind := match cause with
    | .notJoined => "NotJoined"
    | .alreadyJoined => "AlreadyJoined"
    | .emptyName => "EmptyName"
    | .unknownTarget _ => "UnknownTarget"
    | .notPermitted _ => "NotPermitted"
    | .unknownBehavior _ => "UnknownBehavior"
    | .chatTooLong _ => "ChatTooLong"
    | .outOfBounds _ => "OutOfBounds"
    | .sequenceRegression .. => "SequenceRegression"
  Lockstep.diagnosis kind cause.message []

/-- Why a replica cannot handle a message. -/
def ReplicaError.diagnosis (cause : ReplicaError) : Datum :=
  match cause with
  | .protocolMismatch _ => Lockstep.diagnosis "ProtocolMismatch" cause.message []
  | .snapshotDecode => bareDiagnosis "SnapshotDecode" []
  | .tickGap .. => Lockstep.diagnosis "TickGap" cause.message []

/-- What is wrong with a manifest. -/
def WorldError.diagnosis (cause : WorldError) : Datum :=
  match cause with
  | .zeroTickRate => Lockstep.diagnosis "ZeroTickRate" cause.message []
  | .missingBehavior .. => Lockstep.diagnosis "MissingBehavior" cause.message []
  | .library _ => Lockstep.diagnosis "Library" cause.message []
  | .behavior .. => Lockstep.diagnosis "Behavior" cause.message []
  | .behaviorContainer _ inner => bareDiagnosis "BehaviorFile" [("cause", inner.diagnosis)]
  | .behaviorDirectory _ | .behaviorFile _ => bareDiagnosis "Io" []

end Lockstep
