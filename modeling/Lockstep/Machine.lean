import Lockstep.Thread.Turn

/-!
# Machines

A machine runs a state with the behaviors of a library. Its settings bound the instructions of a
turn and say what avatars are made from. Hosts and replicas are machines that are given the same
commands and the same seeds.
-/

set_option autoImplicit false

namespace Lockstep

/-- How many instructions a turn may take when nothing else is said. -/
def defaultInstructionBudget : UInt32 := 1000

/-- What a machine is run with. -/
structure Settings where
  instructionBudget : UInt32
  /-- What the avatar of a client that joins is made from. -/
  avatar : EntityTemplate
  deriving DecidableEq, Inhabited

/-- How many instructions a turn may take; it is always at least one. -/
def Settings.turnBudget (settings : Settings) : UInt32 := max settings.instructionBudget 1

/-- A state with the behaviors and settings that it is run with. -/
structure Machine where
  library : Library
  settings : Settings
  state : State
  deriving DecidableEq, Inhabited

namespace State

/-- Make an entity, and start its first thread if the template names a behavior. -/
def spawn (state : State) (kind : EntityKind) (name : String) (template : EntityTemplate) :
    EntityId × State :=
  let (id, entities) := state.entities.allocate kind name template
  let state := { state with entities }
  match template.behavior with
  | none => (id, state)
  | some behavior =>
    match state.startThread id behavior none none (Vector.replicate 4 0) with
    | none => (id, state)
    | some (_, state) => (id, state)

/-- The avatar of a client. -/
def avatarOf? (state : State) (client : ClientId) : Option EntityId := state.avatars.get? client

/-- The client that controls an entity. -/
def clientOf? (state : State) (id : EntityId) : Option ClientId :=
  (state.entities.get? id).bind Entity.client

/-- A client may start behaviors on every live entity that no other client controls and that
nobody but the client's own avatar carries. -/
def mayInteract (state : State) (client : ClientId) (target : EntityId) : Bool :=
  match state.entities.get? target with
  | none => false
  | some entity =>
    (entity.client.all fun owner => owner = client) &&
      (entity.carriedBy.all fun carrier => state.avatarOf? client = some carrier)

end State

namespace Machine

/-- A machine with an empty state. -/
def new (library : Library) (settings : Settings) : Machine := ⟨library, settings, State.empty⟩

/-- Make an entity. -/
def spawn (machine : Machine) (kind : EntityKind) (name : String) (template : EntityTemplate) :
    EntityId × Machine :=
  let (id, state) := machine.state.spawn kind name template
  (id, { machine with state })

/-- Take an entity out of the world. Gives nothing if there is no such entity. -/
def despawn (machine : Machine) (id : EntityId) : Option (List TraceEntry × Machine) :=
  (machine.state.despawn id).map fun (trace, state) => (trace, { machine with state })

end Machine
end Lockstep
