import Lockstep.Entity.Appearance

/-!
# Commands

A client asks for an action with a `Command`, which carries the client's own count of its
commands. A command that was accepted becomes a `SequencedCommand`: it has a place in the one
order of all commands, and a tick in which it is applied.
-/

set_option autoImplicit false

namespace Lockstep

/-- What a client may ask for. -/
inductive CommandAction where
  /-- Come into the world with an avatar of this name. -/
  | join (name : String)
  /-- Take the avatar out of the world. -/
  | leave
  /-- Start a behavior on an entity. -/
  | interact (target : EntityId) (behavior : UInt16) (args : Vector Int16 4)
  /-- Put the avatar somewhere. -/
  | move (position : Position)
  /-- Say something. -/
  | chat (text : String)
  deriving DecidableEq, Inhabited

/-- The name of an action. -/
def CommandAction.label : CommandAction → String
  | .join _ => "join"
  | .leave => "leave"
  | .interact .. => "interact"
  | .move _ => "move"
  | .chat _ => "chat"

/-- A request of a client. -/
structure Command where
  /-- The client's count of its commands, which has to grow. -/
  clientSeq : UInt32
  /-- The client's clock, on which nothing depends. -/
  sentAt : UInt64
  action : CommandAction
  deriving DecidableEq, Inhabited

/-- An accepted command with its place in the order of all commands and its tick. -/
structure SequencedCommand where
  seq : UInt64
  tick : UInt64
  client : ClientId
  action : CommandAction
  deriving DecidableEq, Inhabited

/-- Commands in the order of their sequence numbers, and commands with one number in the order in
which they came. -/
def SequencedCommand.sort (commands : List SequencedCommand) : List SequencedCommand :=
  commands.mergeSort fun first second => first.seq ≤ second.seq

/-! ## As data -/

instance : Written CommandAction where
  write
    | .join name => .variant "action" "join" [("name", Written.write name)]
    | .leave => .variant "action" "leave" []
    | .interact target behavior args =>
      .variant "action" "interact"
        [("target", Written.write target), ("behavior", Written.write behavior),
          ("args", Written.write args)]
    | .move position =>
      .variant "action" "move" [("x", Written.write position.x), ("y", Written.write position.y)]
    | .chat text => .variant "action" "chat" [("text", Written.write text)]
  read encoding datum := do
    let (label, content) ← datum.variant? encoding "action"
      ["join", "leave", "interact", "move", "chat"]
    match label with
    | "join" =>
      let fields ← content.fields? .buffered ["name"]
      let name ← fields.required "name"
      some (.join name)
    | "leave" => if content.isUnit then some .leave else none
    | "interact" =>
      let fields ← content.fields? .buffered ["target", "behavior", "args"]
      let target ← fields.required "target"
      let behavior ← fields.required "behavior"
      let args ← fields.defaulted "args" (Vector.replicate 4 0)
      some (.interact target behavior args)
    | "move" =>
      let fields ← content.fields? .buffered ["x", "y"]
      let x ← fields.required "x"
      let y ← fields.required "y"
      some (.move ⟨x, y⟩)
    | _ =>
      let fields ← content.fields? .buffered ["text"]
      let text ← fields.required "text"
      some (.chat text)

instance : Written Command where
  write command := .record
    [("client_seq", Written.write command.clientSeq), ("sent_at_ms", Written.write command.sentAt),
      ("action", Written.write command.action)]
  read encoding datum := do
    let fields ← datum.fields? encoding ["client_seq", "sent_at_ms", "action"]
    let clientSeq ← fields.required "client_seq"
    let sentAt ← fields.defaulted "sent_at_ms" 0
    let action ← fields.required "action"
    some ⟨clientSeq, sentAt, action⟩

instance : Written SequencedCommand where
  write command := .record
    [("seq", Written.write command.seq), ("tick", Written.write command.tick),
      ("client", Written.write command.client), ("action", Written.write command.action)]
  read encoding datum := do
    let fields ← datum.fields? encoding ["seq", "tick", "client", "action"]
    let seq ← fields.required "seq"
    let tick ← fields.required "tick"
    let client ← fields.required "client"
    let action ← fields.required "action"
    some ⟨seq, tick, client, action⟩

end Lockstep
