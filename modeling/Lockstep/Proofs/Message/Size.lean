import Lockstep.Message.Frame
import Lockstep.Proofs.Packed.Size

/-!
# Sizes of messages

A command and what a tick did to an entity take a bounded number of bytes besides the texts in them:
what a client says, and the names of clients that join and of entities that are new. So the size of
the message that tells clients of a tick is bounded by the number of its commands and deltas and by
these texts (`BroadcastTick.size_le`). It is not smaller than the texts of a command and a delta
together (`BroadcastTick.textBytes_le_size`).
-/

set_option autoImplicit false

namespace Lockstep

open Datum (size_uint16_le size_uint32_le size_uint64_le size_int16_le size_int32_le size_text_le
  utf8ByteSize_le_size size_list_le size_le_size_list size_list_le_of_forall size_bytes_le size_record)

/-! ## Commands -/

/-- The bytes of the text in an action. -/
def CommandAction.textBytes : CommandAction → Nat
  | .join name => name.utf8ByteSize
  | .chat text => text.utf8ByteSize
  | _ => 0

/-- A list of numbers of two bytes. -/
theorem size_numbers_le (numbers : List Int16) :
    (Written.write numbers).size ≤ 5 + numbers.length * 3 := by
  have each : ∀ item ∈ numbers.map Written.write, item.size ≤ 3 := by
    intro item member
    obtain ⟨number, _, rfl⟩ := List.mem_map.mp member
    exact size_int16_le number
  have whole := size_list_le_of_forall each
  rwa [List.length_map] at whole

theorem CommandAction.size_join (name : String) :
    (Written.write (CommandAction.join name)).size = 18 + (Datum.text name).size := by
  have whole : (Written.write (CommandAction.join name)).size =
      1 + (12 + ((Datum.text "join").size + (Datum.text name).size)) := size_record (by simp)
  have label : (Datum.text "join").size = 5 := rfl
  omega

theorem CommandAction.size_chat (text : String) :
    (Written.write (CommandAction.chat text)).size = 18 + (Datum.text text).size := by
  have whole : (Written.write (CommandAction.chat text)).size =
      1 + (12 + ((Datum.text "chat").size + (Datum.text text).size)) := size_record (by simp)
  have label : (Datum.text "chat").size = 5 := rfl
  omega

theorem CommandAction.size_le (action : CommandAction) :
    (Written.write action).size ≤ 63 + action.textBytes := by
  cases action with
  | join name =>
    have text := size_text_le name
    rw [size_join, textBytes]
    omega
  | leave => exact (by decide : (Written.write CommandAction.leave).size ≤ 63)
  | interact target behavior args =>
    have first := size_uint32_le target.number
    have second := size_uint16_le behavior
    have third := size_numbers_le args.toList
    have count : args.toList.length = 4 := Vector.length_toList
    have whole : (Written.write (CommandAction.interact target behavior args)).size =
        1 + (28 + ((Datum.text "interact").size + ((Written.write target.number).size +
          ((Written.write behavior).size + (Written.write args.toList).size)))) :=
      size_record (by simp)
    have label : (Datum.text "interact").size = 9 := rfl
    omega
  | move position =>
    have first := size_int32_le position.x
    have second := size_int32_le position.y
    have whole : (Written.write (CommandAction.move position)).size =
        1 + (11 + ((Datum.text "move").size + ((Written.write position.x).size +
          (Written.write position.y).size))) := size_record (by simp)
    have label : (Datum.text "move").size = 5 := rfl
    omega
  | chat text =>
    have content := size_text_le text
    rw [size_chat, textBytes]
    omega

/-- An action takes all bytes of its text. -/
theorem CommandAction.textBytes_le_size (action : CommandAction) :
    action.textBytes ≤ (Written.write action).size := by
  cases action with
  | join name =>
    rw [size_join]
    exact Nat.le_trans (utf8ByteSize_le_size name) (Nat.le_add_left _ _)
  | chat text =>
    rw [size_chat]
    exact Nat.le_trans (utf8ByteSize_le_size text) (Nat.le_add_left _ _)
  | _ => exact Nat.zero_le _

theorem SequencedCommand.size_eq (command : SequencedCommand) :
    (Written.write command).size =
      1 + (23 + ((Written.write command.seq).size + ((Written.write command.tick).size +
        ((Written.write command.client.number).size + (Written.write command.action).size)))) :=
  size_record (by simp)

theorem SequencedCommand.size_le (command : SequencedCommand) :
    (Written.write command).size ≤ 110 + command.action.textBytes := by
  have seq := size_uint64_le command.seq
  have tick := size_uint64_le command.tick
  have client := size_uint32_le command.client.number
  have action := command.action.size_le
  rw [size_eq]
  omega

theorem SequencedCommand.textBytes_le_size (command : SequencedCommand) :
    command.action.textBytes ≤ (Written.write command).size := by
  have action := command.action.textBytes_le_size
  rw [size_eq]
  omega

theorem Command.size_le (command : Command) :
    (Written.write command).size ≤ 107 + command.action.textBytes := by
  have clientSeq := size_uint32_le command.clientSeq
  have sentAt := size_uint64_le command.sentAt
  have action := command.action.size_le
  have whole : (Written.write command).size =
      1 + (29 + ((Written.write command.clientSeq).size + ((Written.write command.sentAt).size +
        (Written.write command.action).size))) := size_record (by simp)
  omega

/-! ## Deltas -/

/-- The bytes of the text in a change. -/
def EntityChange.textBytes : EntityChange → Nat
  | .spawned _ name => name.utf8ByteSize
  | _ => 0

theorem Position.size_le (position : Position) : (Written.write position).size ≤ 15 := by
  have first := size_int32_le position.x
  have second := size_int32_le position.y
  have whole := size_list_le [Written.write position.x, Written.write position.y]
  rw [List.map_cons, List.map_cons, List.map_nil, List.sum_cons, List.sum_cons, List.sum_nil] at whole
  exact Nat.le_trans whole (by omega)

theorem EntitySummary.size_fields_le {summary : EntitySummary}
    (full : summary.attributes.length = 16) :
    Datum.keysSize summary.fields + Datum.valuesSize summary.fields ≤ 136 := by
  have position := summary.position.size_le
  have numbers := size_numbers_le summary.attributes
  have carrying : Datum.keysSize (Datum.optionalField "carrying" Written.write summary.carrying) +
      Datum.valuesSize (Datum.optionalField "carrying" Written.write summary.carrying) ≤ 9 + 5 :=
    Datum.size_optionalField_le (fun id => size_uint32_le id.number) summary.carrying
  have animation :
      Datum.keysSize (Datum.optionalField "animation" Written.write summary.animation) +
        Datum.valuesSize (Datum.optionalField "animation" Written.write summary.animation) ≤
          10 + 3 := Datum.size_optionalField_le size_uint16_le summary.animation
  have sounds := size_uint16_le summary.sounds
  have threads := size_uint16_le summary.threads
  have first : Datum.keysSize [("position", Written.write summary.position),
      ("attributes", Written.write summary.attributes)] = 20 := rfl
  have last : Datum.keysSize [("sounds", Written.write summary.sounds),
      ("threads", Written.write summary.threads)] = 15 := rfl
  have firstValues : Datum.valuesSize [("position", Written.write summary.position),
      ("attributes", Written.write summary.attributes)] =
        (Written.write summary.position).size + (Written.write summary.attributes).size := rfl
  have lastValues : Datum.valuesSize [("sounds", Written.write summary.sounds),
      ("threads", Written.write summary.threads)] =
        (Written.write summary.sounds).size + (Written.write summary.threads).size := rfl
  rw [fields, Datum.keysSize_append, Datum.keysSize_append, Datum.keysSize_append,
    Datum.valuesSize_append, Datum.valuesSize_append, Datum.valuesSize_append, first, last,
    firstValues, lastValues]
  omega

theorem EntityChange.size_spawned (kind : EntityKind) (name : String) :
    (Written.write (EntityChange.spawned kind name)).size = 33 + (Datum.text name).size := by
  have kindSize : (Written.write kind).size = 7 := by cases kind <;> rfl
  have whole : (Written.write (EntityChange.spawned kind name)).size =
      1 + (17 + ((Datum.text "spawned").size + ((Written.write kind).size +
        (Datum.text name).size))) := size_record (by simp)
  have label : (Datum.text "spawned").size = 8 := rfl
  omega

theorem EntityChange.size_le {change : EntityChange}
    (full : ∀ summary, change = .updated summary → summary.attributes.length = 16) :
    (Written.write change).size ≤ 152 + change.textBytes := by
  cases change with
  | spawned kind name =>
    have text := size_text_le name
    rw [size_spawned, textBytes]
    omega
  | updated summary =>
    have few : (("change", Datum.text "updated") :: summary.fields).length < 16 := by
      cases carried : summary.carrying <;> cases shown : summary.animation <;>
        simp [EntitySummary.fields, Datum.optionalField, carried, shown]
    have whole : (Written.write (EntityChange.updated summary)).size =
        1 + (7 + Datum.keysSize summary.fields + (8 + Datum.valuesSize summary.fields)) :=
      size_record few
    have content := EntitySummary.size_fields_le (full summary rfl)
    omega
  | despawned => exact (by decide : (Written.write EntityChange.despawned).size ≤ 152)

theorem EntityDelta.size_eq (delta : EntityDelta) :
    (Written.write delta).size =
      1 + (14 + ((Written.write delta.entity.number).size + (Written.write delta.change).size)) :=
  size_record (by simp)

theorem EntityDelta.size_le {delta : EntityDelta}
    (full : ∀ summary, delta.change = .updated summary → summary.attributes.length = 16) :
    (Written.write delta).size ≤ 172 + delta.change.textBytes := by
  have entity := size_uint32_le delta.entity.number
  have change := EntityChange.size_le full
  rw [size_eq]
  omega

/-- A delta takes all bytes of the name in it. -/
theorem EntityDelta.textBytes_le_size (delta : EntityDelta) :
    delta.change.textBytes ≤ (Written.write delta).size := by
  have change : delta.change.textBytes ≤ (Written.write delta.change).size := by
    cases delta.change with
    | spawned kind name =>
      rw [EntityChange.size_spawned]
      exact Nat.le_trans (utf8ByteSize_le_size name) (Nat.le_add_left _ _)
    | _ => exact Nat.zero_le _
  rw [size_eq]
  omega

/-! ## Ticks -/

theorem TickStatus.size_le (status : TickStatus) : (Written.write status).size ≤ 33 := by
  cases status with
  | ok => exact (by decide : (Written.write TickStatus.ok).size ≤ 33)
  | threadErrors count =>
    have number := size_uint32_le count
    have whole : (Written.write (TickStatus.threadErrors count)).size =
        1 + (13 + ((Datum.text "thread_errors").size + (Written.write count).size)) :=
      size_record (by simp)
    have label : (Datum.text "thread_errors").size = 14 := rfl
    omega

theorem BroadcastTick.size_eq (tick : BroadcastTick) :
    (Written.write tick).size =
      1 + (44 + ((Written.write tick.tick).size + ((Written.write tick.seed).size +
        ((Written.write tick.commands).size + ((Written.write tick.deltas).size +
          ((Written.write tick.status).size + (Datum.bytes tick.stateHash).size)))))) :=
  size_record (by simp)

/-- The size of the message of a tick, by what is in it. -/
theorem BroadcastTick.size_le (tick : BroadcastTick) :
    (Written.write tick).size ≤
      111 + tick.stateHash.length + (tick.commands.map fun command =>
          (Written.write command).size).sum +
        (tick.deltas.map fun delta => (Written.write delta).size).sum := by
  have number := size_uint64_le tick.tick
  have seed := size_uint64_le tick.seed
  have commands := size_list_le (tick.commands.map Written.write)
  have deltas := size_list_le (tick.deltas.map Written.write)
  have status := tick.status.size_le
  have stateHash := size_bytes_le tick.stateHash
  rw [List.map_map] at commands deltas
  rw [size_eq]
  have commandsSize : (Written.write tick.commands).size ≤
      5 + (tick.commands.map fun command => (Written.write command).size).sum := commands
  have deltasSize : (Written.write tick.deltas).size ≤
      5 + (tick.deltas.map fun delta => (Written.write delta).size).sum := deltas
  omega

/-- A command and a delta of a tick count both. -/
theorem BroadcastTick.textBytes_le_size {tick : BroadcastTick} {command : SequencedCommand}
    {delta : EntityDelta} (applied : command ∈ tick.commands) (reported : delta ∈ tick.deltas) :
    command.action.textBytes + delta.change.textBytes ≤ (Written.write tick).size := by
  have first := command.textBytes_le_size
  have second := delta.textBytes_le_size
  have commands : (Written.write command).size ≤ (Written.write tick.commands).size :=
    size_le_size_list (List.mem_map.mpr ⟨command, applied, rfl⟩)
  have deltas : (Written.write delta).size ≤ (Written.write tick.deltas).size :=
    size_le_size_list (List.mem_map.mpr ⟨delta, reported, rfl⟩)
  rw [size_eq]
  omega

/-! ## Frames -/

end Lockstep
