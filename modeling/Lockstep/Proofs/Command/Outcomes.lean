import Lockstep.Proofs.State.Edit
import Lockstep.Tick.Commands

/-!
# Outcomes of commands

There are nine things that a command of a client can come to (`Underway.Applied`), and it comes to
nothing else (`Underway.applyCommand_applied`), whatever the command is and whatever is under way. A
client joins, unless it has an avatar already. A client that has no avatar can only join and chat.
One that has an avatar leaves with it, moves it, or starts a thread if it may.

What every command keeps is proved by cases on what it comes to.
-/

set_option autoImplicit false

namespace Lockstep

/-- A client may interact only with what is alive. -/
theorem State.contains_of_mayInteract {state : State} {client : ClientId} {target : EntityId}
    (may : state.mayInteract client target = true) : state.entities.contains target = true := by
  rw [mayInteract] at may
  cases found : state.entities.get? target with
  | none =>
    rw [found] at may
    exact absurd may Bool.false_ne_true
  | some entity => exact congrArg Option.isSome found

namespace Underway

/-- What a command of a client comes to. -/
inductive Applied (library : Library) (settings : Settings) (client : ClientId)
    (before : Underway) : CommandAction → Underway → Prop where
  /-- A client that has an avatar need not join. -/
  | stays {avatar : EntityId} (name : String) : before.state.avatarOf? client = some avatar →
      Applied library settings client before (.join name)
        { before with
          effects := before.effects.addNote .debug (client.text ++ " is already joined") }
  /-- A client that has no avatar gets a new one. -/
  | joins {name : String} {id : EntityId} {made : State} :
      before.state.avatarOf? client = none →
      before.state.spawn .avatar name settings.avatar = (id, made) →
      Applied library settings client before (.join name)
        { before with
          state := { made.modifyEntity id (fun entity => { entity with client := some client }) with
            avatars := made.avatars.insert client id }
          effects := (before.effects.addNote .info (client.text ++ " joined as " ++ id.text ++ " (" ++
            name ++ ")")).addEvent (client.text ++ " joined as " ++ id.text) }
  /-- A client that has no avatar can do nothing with it. -/
  | idles {action : CommandAction} : before.state.avatarOf? client = none →
      (∀ name, action ≠ .join name) → Applied library settings client before action before
  /-- The avatar of the client goes. -/
  | leaves {id : EntityId} {trace : List TraceEntry} {next : State} :
      before.state.avatarOf? client = some id → before.state.despawn id = some (trace, next) →
      Applied library settings client before .leave
        { before with
          state := next
          effects := ((before.effects.addTrace trace).addNote .info
            (client.text ++ " left")).addEvent (client.text ++ " left") }
  /-- The client leaves, but its avatar has gone already. -/
  | departs {id : EntityId} : before.state.avatarOf? client = some id →
      before.state.despawn id = none →
      Applied library settings client before .leave
        { before with
          effects := ((before.effects.addTrace []).addNote .info
            (client.text ++ " left")).addEvent (client.text ++ " left") }
  /-- The client may not interact with the target any more, or there is no such behavior. -/
  | refuses {avatar : EntityId} (target : EntityId) (behavior : UInt16) (args : Vector Int16 4) :
      before.state.avatarOf? client = some avatar →
      Applied library settings client before (.interact target behavior args)
        { before with
          effects := before.effects.addNote .debug
            (client.text ++ " may no longer run " ++ codeNumeral behavior ++ " on " ++
              target.text) }
  /-- A thread is started that the avatar of the client is the caller and the stack object of. -/
  | interacts {avatar target : EntityId} {behavior : UInt16} {args : Vector Int16 4}
      {thread : ThreadId} {next : State} :
      before.state.avatarOf? client = some avatar → library.contains behavior = true →
      before.state.mayInteract client target = true →
      before.state.startThread target behavior (some avatar) (some avatar) args =
        some (thread, next) →
      Applied library settings client before (.interact target behavior args)
        { before with
          state := next
          effects := before.effects.addEvent
            (avatar.text ++ " started " ++ codeNumeral behavior ++ " on " ++ target.text ++ " as " ++
              thread.text) }
  /-- The avatar of the client is put somewhere. -/
  | moves {id : EntityId} (position : Position) : before.state.avatarOf? client = some id →
      Applied library settings client before (.move position)
        { before with
          state := before.state.modifyEntity id fun entity => { entity with position } }
  /-- The client says something. -/
  | chats (text : String) :
      Applied library settings client before (.chat text)
        { before with
          effects := before.effects.addEvent (client.text ++ " says " ++ quoted text) }

variable {settings : Settings} {client : ClientId} {before : Underway}

theorem join_applied (library : Library) (settings : Settings) (client : ClientId) (name : String)
    (before : Underway) :
    Applied library settings client before (.join name) (before.join settings client name) := by
  rw [join]
  cases bound : before.state.avatarOf? client with
  | some avatar => exact .stays name bound
  | none => exact .joins bound rfl

theorem leave_applied (library : Library) (settings : Settings) (client : ClientId)
    (before : Underway) :
    Applied library settings client before .leave (before.leave client) := by
  rw [leave]
  cases bound : before.state.avatarOf? client with
  | none => exact .idles bound nofun
  | some id =>
    dsimp only
    cases gone : before.state.despawn id with
    | none => exact .departs bound gone
    | some removed => exact .leaves bound gone

theorem interact_applied (library : Library) (settings : Settings) (client : ClientId)
    (target : EntityId) (behavior : UInt16) (args : Vector Int16 4) (before : Underway) :
    Applied library settings client before (.interact target behavior args)
      (before.interact library client target behavior args) := by
  rw [interact]
  dsimp only
  cases bound : before.state.avatarOf? client with
  | none => exact .idles bound nofun
  | some avatar =>
    dsimp only
    cases loaded : library.contains behavior with
    | false => exact .refuses target behavior args bound
    | true =>
      cases may : before.state.mayInteract client target with
      | false => exact .refuses target behavior args bound
      | true =>
        obtain ⟨thread, next, started⟩ := State.startThread_of_alive
          (State.contains_of_mayInteract may) behavior (some avatar) (some avatar) args
        rw [started]
        exact .interacts bound loaded may started

theorem move_applied (library : Library) (settings : Settings) (client : ClientId)
    (position : Position) (before : Underway) :
    Applied library settings client before (.move position) (before.move client position) := by
  rw [move]
  cases bound : before.state.avatarOf? client with
  | none => exact .idles bound nofun
  | some id => exact .moves position bound

/-- **A command comes to nothing else.** -/
theorem applyCommand_applied (library : Library) (settings : Settings) (before : Underway)
    (command : SequencedCommand) :
    Applied library settings command.client before command.action
      (before.applyCommand library settings command) := by
  obtain ⟨seq, tick, client, action⟩ := command
  cases action with
  | join name => exact join_applied library settings client name before
  | leave => exact leave_applied library settings client before
  | interact target behavior args =>
    exact interact_applied library settings client target behavior args before
  | move position => exact move_applied library settings client position before
  | chat text => exact .chats text

end Underway
end Lockstep
