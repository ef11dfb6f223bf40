import Lockstep.Proofs.Avatar.Departure
import Lockstep.Proofs.Tick.Vacant

/-!
# Commands that take effect

A join finds its client without an avatar and gives it one, a leave finds the avatar and takes it
out of the world, and a move puts it somewhere (`CommandAction.TakesEffect`). A command does so as
soon as its client has an avatar, or has none if the command is a join
(`Underway.applyCommand_takesEffect`).
-/

set_option autoImplicit false

namespace Lockstep

namespace CommandAction

/-- Whether an action is one of clients that have joined. Only a join is not. -/
def ofJoined : CommandAction → Bool
  | .join _ => false
  | _ => true

/-- The action of a client finds what it is about, and does what it is to do. -/
def TakesEffect (client : ClientId) (before after : State) : CommandAction → Prop
  | .join name =>
    before.avatarOf? client = none ∧
      ∃ id avatar, before.entities.contains id = false ∧ after.avatarOf? client = some id ∧
        after.entities.get? id = some avatar ∧ avatar.kind = .avatar ∧ avatar.name = name ∧
        avatar.client = some client
  | .leave =>
    ∃ id, before.avatarOf? client = some id ∧ before.entities.contains id = true ∧
      before.Departs id after
  | .move position =>
    ∃ id avatar, before.avatarOf? client = some id ∧ before.entities.get? id = some avatar ∧
      after.avatarOf? client = some id ∧ after.entities.get? id = some { avatar with position }
  | .interact .. => (before.avatarOf? client).isSome
  | .chat _ => (before.avatarOf? client).isSome

end CommandAction

namespace State

variable {state : State} {made : Nat}

theorem Reached.clientsKnown (reached : state.Reached made) : state.ClientsKnown := by
  obtain ⟨_, edits, _⟩ := reached
  exact edits.clientsKnown

end State

namespace Underway

variable {library : Library} {settings : Settings} {underway : Underway} {client : ClientId}

/-- A client without an avatar gets a new one. -/
theorem join_takesEffect (vacant : underway.state.avatarOf? client = none)
    (fresh : ¬ underway.state.entities.contains ⟨underway.state.entities.nextId + 1⟩ = true)
    (name : String) :
    (CommandAction.join name).TakesEffect client underway.state
      (underway.join settings client name).state := by
  obtain ⟨threads, made⟩ := underway.state.get?_spawn .avatar name settings.avatar
  rw [join]
  dsimp only
  rw [if_neg (by rw [vacant]; exact Bool.false_ne_true)]
  refine ⟨vacant, (underway.state.spawn .avatar name settings.avatar).1, _, ?_,
    Table.get?_insert_self ..,
    (Table.get?_modify_self ..).trans (congrArg (Option.map _) made), rfl, rfl, rfl⟩
  rw [State.fst_spawn]
  exact eq_false_of_ne_true fresh

theorem leave_takesEffect (known : underway.state.ClientsKnown)
    (alive : underway.state.AvatarsAlive) {id : EntityId}
    (bound : underway.state.avatarOf? client = some id) :
    CommandAction.leave.TakesEffect client underway.state (underway.leave client).state := by
  obtain ⟨avatar, found⟩ := alive.found bound
  exact ⟨id, bound, Table.contains_of_get? found, leave_departs known alive bound⟩

theorem move_takesEffect (alive : underway.state.AvatarsAlive) {id : EntityId}
    (bound : underway.state.avatarOf? client = some id) (position : Position) :
    (CommandAction.move position).TakesEffect client underway.state
      (underway.move client position).state := by
  obtain ⟨avatar, found⟩ := alive.found bound
  rw [move, bound]
  refine ⟨id, avatar, bound, found, bound, ?_⟩
  exact (Table.get?_modify_self ..).trans (congrArg (Option.map _) found)

/-- **A command takes effect when its client has an avatar**, or has none if the command is a
join. -/
theorem applyCommand_takesEffect {made : Nat} (reached : underway.state.Reached made)
    (command : SequencedCommand) (few : made + command.action.mostEntities < 2 ^ 32)
    (fits : (underway.state.avatarOf? command.client).isSome = command.action.ofJoined) :
    command.action.TakesEffect command.client underway.state
      (underway.applyCommand library settings command).state := by
  have alive := reached.avatarsAlive (Nat.lt_of_le_of_lt (Nat.le_add_right _ _) few)
  obtain ⟨seq, tick, client, action⟩ := command
  cases action with
  | join name =>
    have vacant := Option.isNone_iff_eq_none.mp (Option.isSome_eq_false_iff.mp fits)
    exact join_takesEffect vacant (reached.fresh few) name
  | leave =>
    obtain ⟨id, bound⟩ := Option.isSome_iff_exists.mp fits
    exact leave_takesEffect reached.clientsKnown alive bound
  | move position =>
    obtain ⟨id, bound⟩ := Option.isSome_iff_exists.mp fits
    exact move_takesEffect alive bound position
  | interact target behavior args => exact fits
  | chat text => exact fits

end Underway
end Lockstep
