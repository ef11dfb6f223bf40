import Lockstep.Machine
import Lockstep.Text.Quoted

/-!
# Commands taking effect

At the beginning of a tick the commands that are due are applied in the order of their sequence
numbers. A command may have become impossible since it was accepted, and then does nothing.
-/

set_option autoImplicit false

namespace Lockstep.Underway

/-- A client that has no avatar gets one. -/
def join (settings : Settings) (client : ClientId) (name : String) (underway : Underway) :
    Underway :=
  let state := underway.state
  if (state.avatarOf? client).isSome then
    { underway with
      effects := underway.effects.addNote .debug (client.text ++ " is already joined") }
  else
    let (id, state) := state.spawn .avatar name settings.avatar
    let entities := state.entities.modify id fun entity => { entity with client := some client }
    let line := client.text ++ " joined as " ++ id.text
    let effects := underway.effects.addNote .info (line ++ " (" ++ name ++ ")")
    { underway with
      state := { state with entities, avatars := state.avatars.insert client id }
      effects := effects.addEvent line }

/-- The avatar of a client goes. -/
def leave (client : ClientId) (underway : Underway) : Underway :=
  match underway.state.avatarOf? client with
  | none => underway
  | some id =>
    let (trace, state) := (underway.state.despawn id).getD ([], underway.state)
    let line := client.text ++ " left"
    let effects := (underway.effects.addTrace trace).addNote .info line
    { underway with state, effects := effects.addEvent line }

/-- A behavior starts on an entity, with the client's avatar as caller and stack object. -/
def interact (library : Library) (client : ClientId) (target : EntityId) (behavior : UInt16)
    (args : Vector Int16 4) (underway : Underway) : Underway :=
  let state := underway.state
  match state.avatarOf? client with
  | none => underway
  | some avatar =>
    if !library.contains behavior || !state.mayInteract client target then
      let text := client.text ++ " may no longer run " ++ codeNumeral behavior ++ " on " ++ target.text
      { underway with effects := underway.effects.addNote .debug text }
    else
      match state.startThread target behavior (some avatar) (some avatar) args with
      | none => underway
      | some (thread, state) =>
        let line := avatar.text ++ " started " ++ codeNumeral behavior ++ " on " ++ target.text ++
          " as " ++ thread.text
        { underway with state, effects := underway.effects.addEvent line }

/-- The avatar of a client is put somewhere. -/
def move (client : ClientId) (position : Position) (underway : Underway) : Underway :=
  match underway.state.avatarOf? client with
  | none => underway
  | some id =>
    let entities := underway.state.entities.modify id fun entity => { entity with position }
    { underway with state := { underway.state with entities } }

/-- A client says something. -/
def chat (client : ClientId) (text : String) (underway : Underway) : Underway :=
  { underway with effects := underway.effects.addEvent (client.text ++ " says " ++ quoted text) }

/-- Apply a command. -/
def applyCommand (library : Library) (settings : Settings) (underway : Underway)
    (command : SequencedCommand) : Underway :=
  match command.action with
  | .join name => underway.join settings command.client name
  | .leave => underway.leave command.client
  | .interact target behavior args => underway.interact library command.client target behavior args
  | .move position => underway.move command.client position
  | .chat text => underway.chat command.client text

end Lockstep.Underway
