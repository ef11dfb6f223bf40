import Lockstep.Proofs.Tick.Deltas
import Lockstep.Proofs.Tick.Population

/-!
# Sizes of broadcasts

Where only one client has come to a world, the message that tells clients of a tick is no larger
than follows from the number of residents and of commands and from the longest text in these
commands (`Machine.size_broadcast_le`). The text of a join counts twice: it is in the command, and
it is the name of a new avatar.
-/

set_option autoImplicit false

namespace Lockstep

theorem State.length_hash (state : State) : state.hash.length = 32 := Digest.length_ofBytes _

/-- The size of the commands of a tick, where no text in them is too long. -/
theorem SequencedCommand.sum_size_le {commands : List SequencedCommand} {longest : Nat}
    (short : ∀ command ∈ commands, command.action.textBytes ≤ longest) :
    ((sort commands).map fun command => (Written.write command).size).sum ≤
      commands.length * (110 + longest) := by
  have each : ∀ size ∈ (sort commands).map (fun command => (Written.write command).size),
      size ≤ 110 + longest := by
    intro size member
    obtain ⟨command, present, rfl⟩ := List.mem_map.mp member
    have text := short command (List.mem_mergeSort.mp present)
    exact Nat.le_trans command.size_le (Nat.add_le_add_left text 110)
  have whole := List.sum_le_card_nsmul _ _ each
  rwa [List.length_map, sort, List.length_mergeSort] at whole

section

variable {machine : Machine} {residents : List EntityId} {client : ClientId} {longest : Nat}
  {commands : List SequencedCommand} {seed : UInt64}

/-- A new entity is the avatar of the client and has the name with which it joined. -/
theorem Machine.newcomer_of_runTick (own : ∀ command ∈ commands, command.client = client)
    (short : ∀ command ∈ commands, command.action.textBytes ≤ longest)
    (known : (machine.runTick commands seed).machine.state.ClientsKnown)
    {id : EntityId} {entity : Entity}
    (found : (machine.runTick commands seed).machine.state.entities.get? id = some entity)
    (new : machine.state.entities.get? id = none) :
    some id = (machine.runTick commands seed).machine.state.avatarOf? client ∧
      entity.name.utf8ByteSize ≤ longest := by
  obtain ⟨old, held, _⟩ | ⟨newcomer, member, _, name, controlled⟩ :=
    machine.runTick_grew commands seed id entity found
  · exact absurd (new.symm.trans held) (Option.some_ne_none old).symm
  · obtain ⟨command, present, same, joins⟩ := SequencedCommand.joined_of_newcomer member
    have owned : (machine.runTick commands seed).machine.state.clientOf? id = some client := by
      rw [State.clientOf?, show EntityTable.get? _ _ = _ from found]
      exact controlled.trans (congrArg some (same.symm.trans (own command present)))
    have text := short command present
    rw [joins] at text
    exact ⟨(known id client owned).symm, name ▸ text⟩

/-- The size of the message of a tick, where one client has come to a world and no text of its
commands is too long. -/
theorem Machine.size_broadcast_le (peopled : machine.state.Peopled residents client)
    (known : machine.state.ClientsKnown) (own : ∀ command ∈ commands, command.client = client)
    (short : ∀ command ∈ commands, command.action.textBytes ≤ longest) :
    (Written.write (machine.runTick commands seed).report.broadcast).size ≤
      659 + longest + 172 * residents.length + commands.length * (110 + longest) := by
  let after := (machine.runTick commands seed).machine.state
  let avatars := (machine.state.avatarOf? client).toList ++ (after.avatarOf? client).toList
  have few : avatars.length ≤ 2 := by
    rw [List.length_append]
    exact Nat.add_le_add Option.length_toList_le Option.length_toList_le
  have peopledAfter := peopled.runTick own seed
  have knownAfter := known.runTick commands seed
  have alive : ∀ id, machine.state.entities.contains id = true ∨ after.entities.contains id = true →
      id ∈ residents ++ avatars := by
    rintro id (before | now)
    · have present := peopled.alive known before
      rw [List.mem_append] at present ⊢
      exact present.imp_right (List.mem_append_left _)
    · have present := peopledAfter.alive knownAfter now
      rw [List.mem_append] at present ⊢
      exact present.imp_right (List.mem_append_right _)
  have deltas := @EntityTable.size_deltasSince_le machine.state.entities after.entities
    (after.avatarOf? client) longest (residents ++ avatars) peopled.identified
    peopledAfter.identified alive fun _ _ => newcomer_of_runTick own short knownAfter
  have applied := SequencedCommand.sum_size_le short
  have size := (machine.runTick commands seed).report.broadcast.size_le
  have hash : (machine.runTick commands seed).report.broadcast.stateHash.length = 32 :=
    State.length_hash after
  have sameCommands : (machine.runTick commands seed).report.broadcast.commands =
      SequencedCommand.sort commands := rfl
  have sameDeltas : (machine.runTick commands seed).report.broadcast.deltas =
      after.entities.deltasSince machine.state.entities.summaries := rfl
  rw [hash, sameCommands, sameDeltas] at size
  rw [List.length_append] at deltas
  omega

end
end Lockstep
