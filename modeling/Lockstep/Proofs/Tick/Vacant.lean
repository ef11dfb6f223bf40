import Lockstep.Proofs.Command.Standing
import Lockstep.Proofs.State.Avatars
import Lockstep.Proofs.Tick.Edited

/-!
# Clients without avatars

A client gets an avatar only by a join of its own. A leave takes the avatar away, if identities were
given out once. So after a tick a client has no avatar if the last of its joins and leaves in that
tick is a leave, and also if there is none and it had no avatar before (`Machine.runTick_vacant`).
-/

set_option autoImplicit false

namespace Lockstep

namespace State

variable {before after : State} {threads : Nat} {events : List SoundEvent}

/-- Where no entity is made, no client gets an avatar. -/
theorem Changed.vacant (changed : before.Changed 0 threads events after) {client : ClientId}
    (vacant : before.avatarOf? client = none) : after.avatarOf? client = none := by
  obtain ⟨deeds, edits, _, made, _, bound⟩ := changed
  have unnamed : client ∉ clientsBound deeds := by
    rw [List.eq_nil_of_length_eq_zero (Nat.le_zero.mp (Nat.le_trans bound made))]
    exact List.not_mem_nil
  cases held : after.avatarOf? client with
  | none => rfl
  | some id => exact absurd (vacant.symm.trans (edits.avatars_shrink unnamed held)) (by simp)

end State

/-! ## Commands -/

namespace Underway

variable {library : Library} {settings : Settings} {underway : Underway} {client : ClientId}

theorem Edited.vacant {after : Underway} {threads : Nat} (edited : underway.Edited 0 threads after)
    (vacant : underway.state.avatarOf? client = none) : after.state.avatarOf? client = none := by
  obtain ⟨_, changed, _⟩ := edited
  exact changed.vacant vacant

/-- The command of another client leaves the avatar of a client alone. -/
theorem Applied.avatarOf?_of_ne {other : ClientId} {action : CommandAction} {after : Underway}
    (applied : Applied library settings other underway action after)
    (alive : underway.state.AvatarsAlive) (apart : client ≠ other) :
    after.state.avatarOf? client = underway.state.avatarOf? client := by
  cases applied with
  | @joins name id made vacant spawned =>
    have kept := underway.state.avatars_spawn .avatar name settings.avatar
    rw [spawned] at kept
    exact (Table.get?_insert_of_ne _ apart _).trans (congrArg (Table.get? · client) kept)
  | @leaves id trace next bound gone =>
    refine (State.avatarOf?_despawn gone client).trans (if_neg fun owned => apart ?_)
    exact Option.some.inj (owned.symm.trans (alive other id bound))
  | interacts bound known may started =>
    obtain ⟨_, _, rfl⟩ := State.startThread_eq started
    rfl
  | _ => rfl

/-- A client has an avatar after its join and none after its leave, and other actions do not change
whether it has one. -/
theorem Applied.standing {action : CommandAction} {after : Underway}
    (applied : Applied library settings client underway action after)
    (alive : underway.state.AvatarsAlive) :
    (after.state.avatarOf? client).isSome =
      action.standing?.getD (underway.state.avatarOf? client).isSome := by
  cases applied with
  | stays name bound => exact Option.isSome_of_eq_some bound
  | joins vacant spawned => exact congrArg Option.isSome (Table.get?_insert_self _ client _)
  | idles vacant other =>
    cases action with
    | join name => exact absurd rfl (other name)
    | leave => exact congrArg Option.isSome vacant
    | _ => rfl
  | @leaves id trace next bound gone =>
    have owned := alive client id bound
    exact congrArg Option.isSome ((State.avatarOf?_despawn gone client).trans (if_pos owned))
  | departs bound gone => exact absurd gone (alive.despawn_ne_none bound)
  | interacts bound known may started =>
    obtain ⟨_, _, rfl⟩ := State.startThread_eq started
    rfl
  | _ => rfl

/-- A join gives its client an avatar and a leave takes it away. No other command does either. -/
theorem standing_applyCommand (alive : underway.state.AvatarsAlive) (command : SequencedCommand)
    (client : ClientId) :
    ((underway.applyCommand library settings command).state.avatarOf? client).isSome =
      (command.standing? client).getD (underway.state.avatarOf? client).isSome := by
  have applied := applyCommand_applied library settings underway command
  rw [SequencedCommand.standing?]
  by_cases same : command.client = client
  · subst same
    rw [if_pos rfl]
    exact applied.standing alive
  · rw [if_neg same, Option.getD_none]
    exact congrArg Option.isSome (applied.avatarOf?_of_ne alive (Ne.symm same))

/-- Only a join of its own gives a client an avatar. -/
theorem Applied.vacant {other : ClientId} {action : CommandAction} {after : Underway}
    (applied : Applied library settings other underway action after)
    (others : other = client → action.standing? ≠ some true)
    (vacant : underway.state.avatarOf? client = none) : after.state.avatarOf? client = none := by
  have edited := applied.edited
  cases applied with
  | @joins name id made absent spawned =>
    have apart : client ≠ other := fun same => others same.symm rfl
    have kept := underway.state.avatars_spawn .avatar name settings.avatar
    rw [spawned] at kept
    refine (Table.get?_insert_of_ne _ apart _).trans ?_
    exact (congrArg (Table.get? · client) kept).trans vacant
  | leaves bound gone => exact edited.vacant vacant
  | interacts bound known may started => exact edited.vacant vacant
  | _ => exact vacant

theorem vacant_applyCommand {command : SequencedCommand}
    (others : command.standing? client ≠ some true)
    (vacant : underway.state.avatarOf? client = none) :
    (underway.applyCommand library settings command).state.avatarOf? client = none := by
  refine (applyCommand_applied library settings underway command).vacant (fun own => ?_) vacant
  rw [SequencedCommand.standing?, if_pos own] at others
  exact others

theorem vacant_commands_of_others {commands : List SequencedCommand}
    (others : ∀ command ∈ commands, command.standing? client ≠ some true)
    (vacant : underway.state.avatarOf? client = none) :
    (commands.foldl (applyCommand library settings) underway).state.avatarOf? client = none := by
  induction commands generalizing underway with
  | nil => exact vacant
  | cons command rest inductionHypothesis =>
    obtain ⟨first, others⟩ := List.forall_mem_cons.mp others
    exact inductionHypothesis others (vacant_applyCommand first vacant)

/-- Whether a client has an avatar after some commands is what the last of its joins and leaves
says, or what was so before. -/
theorem standing_commands {made : Nat} (reached : underway.state.Reached made)
    (commands : List SequencedCommand)
    (few : made + SequencedCommand.mostEntities commands < 2 ^ 32) (client : ClientId) :
    ((commands.foldl (applyCommand library settings) underway).state.avatarOf? client).isSome =
      (SequencedCommand.standingOf? commands client).getD
        (underway.state.avatarOf? client).isSome := by
  induction commands using List.reverseRecOn with
  | nil => rfl
  | append_singleton commands command inductionHypothesis =>
    rw [SequencedCommand.mostEntities, List.map_append, List.sum_append] at few
    have fewBefore : made + SequencedCommand.mostEntities commands < 2 ^ 32 :=
      Nat.lt_of_le_of_lt (Nat.add_le_add_left (Nat.le_add_right _ _) made) few
    obtain ⟨_, changed, _⟩ := edited_commands library settings commands underway
    rw [List.foldl_append, List.foldl_cons, List.foldl_nil,
      standing_applyCommand ((reached.changed changed).avatarsAlive fewBefore),
      inductionHypothesis fewBefore, SequencedCommand.standingOf?_concat]
    cases command.standing? client <;> rfl

end Underway

/-! ## Ticks -/

/-- After a tick a client has no avatar if that is what the last of its joins and leaves says, or
what was so before. -/
theorem Machine.runTick_vacant {machine : Machine} {entities threads : Nat}
    {events : List SoundEvent}
    (changed : State.empty.Changed entities threads events machine.state)
    {commands : List SequencedCommand} (inOrder : SequencedCommand.sort commands = commands)
    (few : entities + SequencedCommand.mostEntities commands < 2 ^ 32) {client : ClientId}
    (absent : (SequencedCommand.standingOf? commands client).getD
      (machine.state.avatarOf? client).isSome = false) (seed : UInt64) :
    (machine.runTick commands seed).machine.state.avatarOf? client = none := by
  have begun : (machine.begin (SequencedCommand.sort commands) seed).state.avatarOf? client =
      none := by
    rw [inOrder]
    have standing := @Underway.standing_commands machine.library machine.settings
      (machine.dawn seed) _ changed.reached commands few client
    exact Option.isNone_iff_eq_none.mp (Option.isSome_eq_false_iff.mp (standing.trans absent))
  exact (machine.edited_runTurns _ _ []).vacant begun

/-- In a tick without a join of its own a client gets no avatar. -/
theorem Machine.runTick_vacant_of_others {machine : Machine} {commands : List SequencedCommand}
    {client : ClientId} (others : ∀ command ∈ commands, command.standing? client ≠ some true)
    (vacant : machine.state.avatarOf? client = none) (seed : UInt64) :
    (machine.runTick commands seed).machine.state.avatarOf? client = none := by
  have begun : (machine.begin (SequencedCommand.sort commands) seed).state.avatarOf? client =
      none := by
    refine @Underway.vacant_commands_of_others machine.library machine.settings
      (machine.dawn seed) client _ (fun command member => ?_) vacant
    exact others command (List.mem_mergeSort.mp member)
  exact (machine.edited_runTurns _ _ []).vacant begun

end Lockstep
