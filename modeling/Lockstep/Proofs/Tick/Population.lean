import Lockstep.Proofs.State.Population
import Lockstep.Proofs.Tick.Vacant

/-!
# Who is there after a tick

In a tick entities come only by joins (`Machine.runTick_grew`). So where all commands are those of
one client, nobody comes but that client (`State.Peopled.runTick`).
-/

set_option autoImplicit false

namespace Lockstep

/-! ## Newcomers -/

/-- The client and the name of its avatar, if the command is a join. -/
def SequencedCommand.newcomer? (command : SequencedCommand) : Option (ClientId × String) :=
  match command.action with
  | .join name => some (command.client, name)
  | _ => none

/-- Newcomers have joined. -/
theorem SequencedCommand.joined_of_newcomer {commands : List SequencedCommand}
    {newcomer : ClientId × String} (member : newcomer ∈ (sort commands).filterMap newcomer?) :
    ∃ command ∈ commands, command.client = newcomer.1 ∧ command.action = .join newcomer.2 := by
  obtain ⟨⟨seq, tick, client, action⟩, present, joins⟩ := List.mem_filterMap.mp member
  refine ⟨_, List.mem_mergeSort.mp present, ?_⟩
  cases action with
  | join name =>
    obtain rfl := Option.some.inj joins
    exact ⟨rfl, rfl⟩
  | _ => exact nomatch joins

namespace Underway

variable {library : Library} {settings : Settings}

theorem Edited.grew {before after : Underway} {threads : Nat}
    (edited : before.Edited 0 threads after) :
    before.state.entities.Grew [] after.state.entities := by
  obtain ⟨_, changed, _⟩ := edited
  exact changed.grew

/-- The client of the action and the name of its avatar, if the action is a join, are the only
newcomer. -/
theorem Applied.grew {client : ClientId} {action : CommandAction} {before after : Underway}
    (applied : Applied library settings client before action after) (seq tick : UInt64) :
    before.state.entities.Grew (SequencedCommand.newcomer? ⟨seq, tick, client, action⟩).toList
      after.state.entities := by
  have edited := applied.edited
  cases applied with
  | stays name bound => exact fun _ entity found => .inl ⟨entity, found, .refl entity⟩
  | @joins name id made vacant spawned =>
    have first := before.state.fst_spawn .avatar name settings.avatar
    intro probe entity found
    have grew {held : Entity} := @State.grew_spawn before.state .avatar name settings.avatar probe
      held
    rw [spawned] at grew
    by_cases here : probe = id
    · subst here
      obtain ⟨new, held, rfl⟩ := Option.map_eq_some_iff.mp ((Table.get?_modify_self ..).symm.trans found)
      obtain ⟨_, identity, named, _⟩ | ⟨apart, _⟩ := grew held
      · exact .inr ⟨_, List.mem_singleton_self _, identity, named, rfl⟩
      · exact absurd rfl apart
    · obtain ⟨same, _⟩ | ⟨_, old, held, remains⟩ :=
        grew ((Table.get?_modify_of_ne _ here _).symm.trans found)
      · exact absurd same here
      · exact .inl ⟨old, held, remains⟩
  | idles vacant other => exact fun _ entity found => .inl ⟨entity, found, .refl entity⟩
  | leaves bound gone => exact edited.grew
  | departs bound gone => exact edited.grew
  | refuses target behavior args bound => exact edited.grew
  | interacts bound known may started => exact edited.grew
  | moves position bound => exact edited.grew
  | chats text => exact edited.grew

theorem grew_applyCommand (underway : Underway) (command : SequencedCommand) :
    underway.state.entities.Grew command.newcomer?.toList
      (underway.applyCommand library settings command).state.entities :=
  (applyCommand_applied library settings underway command).grew command.seq command.tick

theorem grew_commands (underway : Underway) (commands : List SequencedCommand) :
    underway.state.entities.Grew (commands.filterMap SequencedCommand.newcomer?)
      (commands.foldl (applyCommand library settings) underway).state.entities := by
  induction commands generalizing underway with
  | nil => exact .refl _
  | cons command rest inductionHypothesis =>
    have first := @grew_applyCommand library settings underway command
    have both := first.trans (inductionHypothesis _)
    rw [List.filterMap_cons]
    cases joins : command.newcomer? <;> rw [joins] at both <;> exact both

end Underway

/-- In a tick entities come only by joins. -/
theorem Machine.runTick_grew (machine : Machine) (commands : List SequencedCommand)
    (seed : UInt64) :
    machine.state.entities.Grew
      ((SequencedCommand.sort commands).filterMap SequencedCommand.newcomer?)
      (machine.runTick commands seed).machine.state.entities := by
  have begun := @Underway.grew_commands machine.library machine.settings (machine.dawn seed)
    (SequencedCommand.sort commands)
  have turns := machine.edited_runTurns
    (machine.begin (SequencedCommand.sort commands) seed).state.threads.keys
    (machine.begin (SequencedCommand.sort commands) seed) []
  have both := begun.trans turns.grew
  rw [List.append_nil] at both
  exact both

/-- After a tick as well, the client of an entity has that entity for its avatar. -/
theorem State.ClientsKnown.runTick {machine : Machine} (known : machine.state.ClientsKnown)
    (commands : List SequencedCommand) (seed : UInt64) :
    (machine.runTick commands seed).machine.state.ClientsKnown := by
  obtain ⟨_, edits, _⟩ := machine.runTick_changed commands seed
  exact edits.keep known State.Edit.clientsKnown

/-- The client's commands bring nobody but the client. -/
theorem State.Peopled.runTick {machine : Machine} {residents : List EntityId} {client : ClientId}
    (peopled : machine.state.Peopled residents client)
    {commands : List SequencedCommand} (own : ∀ command ∈ commands, command.client = client)
    (seed : UInt64) : (machine.runTick commands seed).machine.state.Peopled residents client := by
  have grew := machine.runTick_grew commands seed
  constructor
  case identified =>
    intro id entity found
    obtain ⟨old, held, remains⟩ | ⟨_, _, identity, _⟩ := grew id entity found
    · exact remains.id.trans (peopled.identified id old held)
    · exact identity
  case peopled =>
    intro id entity found
    obtain ⟨old, held, remains⟩ | ⟨newcomer, member, _, _, controlled⟩ := grew id entity found
    · obtain resident | controlled := peopled.peopled id old held
      · exact .inl resident
      · exact .inr ((remains.client (controlled ▸ Option.some_ne_none _)).trans controlled)
    · obtain ⟨command, present, same, _⟩ := SequencedCommand.joined_of_newcomer member
      exact .inr (controlled.trans (congrArg some (same.symm.trans (own command present))))
  case alone =>
    intro other apart
    refine Machine.runTick_vacant_of_others (fun command member => ?_)
      (peopled.alone other apart) seed
    rw [SequencedCommand.standing?, if_neg]
    · exact (Option.some_ne_none true).symm
    · exact fun same => apart (same.symm.trans (own command member))

end Lockstep
