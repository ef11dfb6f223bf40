import Mathlib.Data.List.Nodup
import Lockstep.Proofs.Machine.Births
import Lockstep.Proofs.Machine.Churn
import Lockstep.Proofs.Sound.Bookkeeping

/-!
# Sounds in histories

Whatever is done with a machine that starts empty, its entities, its index and the log of the
player agree on the channels that are open (`Machine.history_sounds`). The index never needs the
refresh at the end of a tick, because it is right before it.
-/

set_option autoImplicit false

namespace Lockstep

namespace State

/-- The channels that entities hold, in the order of the entities. -/
def heldChannels (state : State) : List ChannelId :=
  state.entities.list.flatMap fun entity => entity.sounds.map SoundChannel.channel

/-- What is written down of the channels that are open. -/
structure SoundsAgree (state : State) (log : List SoundEvent) : Prop where
  /-- The index has the channels of each live entity, and no others. -/
  indexed : ∀ owner channel, channel ∈ state.sounds.channels owner ↔
    ∃ entity, state.entities.get? owner = some entity ∧
      channel ∈ entity.sounds.map SoundChannel.channel
  /-- It has no entry for an entity that is not alive, and none without channels. -/
  noEmptyEntry : ∀ owner, state.sounds.containsOwner owner = true →
    state.entities.contains owner = true ∧ state.sounds.channels owner ≠ []
  /-- A sound names the entity that holds it. -/
  owned : ∀ id entity, state.entities.get? id = some entity →
    ∀ sound ∈ entity.sounds, sound.owner = id
  /-- No channel is held twice, by one entity or by two. -/
  heldOnce : state.heldChannels.Nodup
  /-- What is active for the player are the held channels in ascending order. -/
  active : activeChannels log =
    state.heldChannels.mergeSort fun first second => first.number ≤ second.number
  playedOnce : (playedChannels log).Nodup
  releasedOnce : (releasedChannels log).Nodup
  /-- A channel is released after it was played, and for the same owner. -/
  releasedAfter : ∀ before channel owner after, log = before ++ .release channel owner :: after →
    PlayedBy before owner channel

/-! ## What the books say of live entities -/

theorem heldChannels_eq (state : State) :
    state.heldChannels = state.entities.entities.keys.flatMap state.entities.channelsOf := by
  rw [heldChannels, EntityTable.list, Table.values, Table.keys, List.flatMap_map, List.flatMap_map]
  refine List.flatMap_congr fun entry member => ?_
  have found : state.entities.get? entry.1 = some entry.2 := Table.mem_entries_iff.mp member
  rw [EntityTable.channelsOf, EntityTable.soundsOf_of_get? found]

theorem mem_channelsOf_iff {state : State} {owner : EntityId} {channel : ChannelId} :
    channel ∈ state.entities.channelsOf owner ↔
      ∃ entity, state.entities.get? owner = some entity ∧
        channel ∈ entity.sounds.map SoundChannel.channel := by
  rw [EntityTable.channelsOf, EntityTable.soundsOf]
  cases state.entities.get? owner with
  | none => simp
  | some entity => simp

theorem mem_heldChannels {state : State} {channel : ChannelId} :
    channel ∈ state.heldChannels ↔ ∃ owner, channel ∈ state.entities.channelsOf owner := by
  rw [heldChannels_eq, List.mem_flatMap]
  constructor
  · rintro ⟨owner, _, held⟩
    exact ⟨owner, held⟩
  · rintro ⟨owner, held⟩
    obtain ⟨entity, found, _⟩ := mem_channelsOf_iff.mp held
    exact ⟨owner, Table.mem_keys.mpr (Table.contains_of_get? found), held⟩

namespace Audible

variable {state : State} {log : List SoundEvent}

theorem heldOnce (audible : state.Audible log) : state.heldChannels.Nodup := by
  rw [heldChannels_eq, List.nodup_flatMap]
  refine ⟨fun owner _ => audible.distinct owner, ?_⟩
  refine (Table.keys_nodup state.entities.entities).imp fun {first second} apart => ?_
  intro channel firstHeld secondHeld
  exact apart (audible.orderly.owner_unique (audible.played first channel firstHeld)
    (audible.played second channel secondHeld))

/-- The active channels are the held ones, and both lists have no duplicates. -/
theorem active_perm (audible : state.Audible log) :
    (activeChannels log).Perm state.heldChannels := by
  have distinct : (activeChannels log).Nodup := by
    refine audible.ascending.imp fun {first second} less same => ?_
    rw [same] at less
    exact UInt32.lt_irrefl _ less
  rw [List.perm_ext_iff_of_nodup distinct audible.heldOnce]
  intro channel
  rw [audible.active, mem_heldChannels]

theorem active_eq (audible : state.Audible log) :
    activeChannels log =
      state.heldChannels.mergeSort fun first second => first.number ≤ second.number := by
  have same := audible.active_perm.trans (List.mergeSort_perm state.heldChannels
    fun first second => first.number ≤ second.number).symm
  have ascending : (activeChannels log).Pairwise fun first second =>
      first.number ≤ second.number := audible.ascending.imp UInt32.le_of_lt
  have sorted := @List.pairwise_mergeSort _ (fun first second : ChannelId =>
    first.number ≤ second.number) ?_ ?_ state.heldChannels
  refine List.Perm.eq_of_pairwise ?_ ascending (sorted.imp of_decide_eq_true) same
  · intro first second _ _ less greater
    exact congrArg ChannelId.mk (UInt32.le_antisymm less greater)
  · intro first second third firstSecond secondThird
    exact decide_eq_true
      (UInt32.le_trans (of_decide_eq_true firstSecond) (of_decide_eq_true secondThird))
  · intro first second
    rw [Bool.or_eq_true, decide_eq_true_eq, decide_eq_true_eq]
    exact UInt32.le_total first.number second.number

theorem agree (audible : state.Audible log) : state.SoundsAgree log where
  indexed owner channel := (audible.index owner channel).trans mem_channelsOf_iff
  noEmptyEntry owner present := by
    have sounding := audible.entries owner present
    obtain ⟨sound, member⟩ := List.exists_mem_of_ne_nil _ sounding
    have held : sound.channel ∈ state.entities.channelsOf owner := List.mem_map_of_mem member
    obtain ⟨entity, found, _⟩ := mem_channelsOf_iff.mp held
    exact ⟨Table.contains_of_get? found,
      List.ne_nil_of_mem ((audible.index owner sound.channel).mpr held)⟩
  owned id entity found sound member :=
    audible.owners id sound (EntityTable.soundsOf_of_get? found ▸ member)
  heldOnce := audible.heldOnce
  active := audible.active_eq
  playedOnce := audible.orderly.playedOnce
  releasedOnce := audible.orderly.releasedOnce
  releasedAfter _ _ _ _ split := audible.orderly.releasedAfter split

end Audible
end State

/-! ## Histories -/

namespace Machine

variable {library : Library} {settings : Settings}

/-- The player has been told at least what it had been told earlier. -/
theorem history_told (earlier later : List Operation) :
    ∃ events, soundEvents .recording (history library settings (earlier ++ later)).trace =
      soundEvents .recording (history library settings earlier).trace ++ events := by
  induction later using List.reverseRecOn with
  | nil => exact ⟨[], by rw [List.append_nil, List.append_nil]⟩
  | append_singleton later operation inductionHypothesis =>
    obtain ⟨events, told⟩ := inductionHypothesis
    obtain ⟨more, _, heard⟩ :=
      (history library settings (earlier ++ later)).extend_changed operation
    refine ⟨events ++ more, ?_⟩
    rw [← List.append_assoc, history_concat, heard, told, List.append_assoc]

/-- What edits lead to from the empty state is written down in agreement. -/
theorem audible_of_changed {state : State} {entities threads : Nat} {log : List SoundEvent}
    (changed : State.empty.Changed entities threads log state) (few : entities < 2 ^ 32)
    (quiet : (playedChannels log).length < 2 ^ 32) : state.Audible log := by
  obtain ⟨deeds, edits, rfl, made, _⟩ := changed
  exact edits.audible (Nat.lt_of_le_of_lt made few) quiet

/-- **The books of sounds agree after every history**, unless `2 ^ 32` entities have come or `2 ^ 32`
channels were opened. And in every tick the index is right before it is refreshed.

Identities are never reused as long as their counter does not run over. When it does, a new entity
can take the place of a live one, whose channels stay in the index. -/
theorem history_sounds (operations : List Operation)
    (few : (births (passed library settings operations)).length < 2 ^ 32)
    (quiet : (playedChannels
      (soundEvents .recording (history library settings operations).trace)).length < 2 ^ 32) :
    (history library settings operations).machine.state.SoundsAgree
        (soundEvents .recording (history library settings operations).trace) ∧
      ∀ earlier commands seed later, operations = earlier ++ .tick commands seed :: later →
        let ended := ((history library settings earlier).machine.dusk commands seed).state
        ended.sounds.refresh ended.entities = ended.sounds := by
  refine ⟨(audible_of_changed (history_counted operations few) few quiet).agree, ?_⟩
  rintro earlier commands seed later rfl
  have tick : earlier ++ .tick commands seed :: later =
      (earlier ++ [.tick commands seed]) ++ later := by
    rw [List.append_assoc]
    rfl
  obtain ⟨events, told⟩ := @history_told library settings (earlier ++ [.tick commands seed]) later
  obtain ⟨made, enough, during⟩ := history_turns_counted earlier later commands seed _ few
  have before := births_length_lt few
  rw [tick, told, playedChannels_append, List.length_append, history_concat] at quiet
  have changed := (history_counted earlier before).trans (changed_dusk during)
  rw [← soundEvents_append] at changed
  refine (audible_of_changed changed enough ?_).refresh
  exact Nat.lt_of_le_of_lt (Nat.le_add_right _ _) quiet

/-- A library with one behavior, which plays a sound and returns. -/
def bellLibrary : Library where
  behaviors := Table.empty.insert 300 ⟨300, "ring", 0, 0,
    [.ofOperand (.primitive (.playSound 7 100 ⟨0⟩)) targetTrue targetFalse]⟩

/-- A bell rings in the first tick and is taken away. -/
theorem history_sounds_bell :
    let operations : List Operation :=
      [.spawn .object "bell" ⟨some 300, [], ⟨0, 0⟩⟩, .tick [] 7, .despawn ⟨1⟩]
    let log := soundEvents .recording (history bellLibrary default operations).trace
    (births (passed bellLibrary default operations)).length < 2 ^ 32 ∧
      (playedChannels log).length < 2 ^ 32 ∧
      log = [.play ⟨1⟩ 7 100 ⟨1⟩, .release ⟨1⟩ ⟨1⟩] ∧
      (history bellLibrary default operations).machine.state.SoundsAgree log := by
  intro operations log
  have told : log = [.play ⟨1⟩ 7 100 ⟨1⟩, .release ⟨1⟩ ⟨1⟩] := by decide +kernel
  have few : (births (passed bellLibrary default operations)).length < 2 ^ 32 := by decide +kernel
  have quiet : (playedChannels log).length < 2 ^ 32 := by
    rw [told]
    decide
  exact ⟨few, quiet, told, (history_sounds operations few quiet).1⟩

/-- When the counter of identities has run over, a rock takes the place of the bell. Then nobody
holds the channel of the bell, and the player was never told to stop it. -/
theorem history_sounds_lap :
    let rings : List Operation := [.spawn .object "bell" ⟨some 300, [], ⟨0, 0⟩⟩, .tick [] 7]
    let operations := rings ++ lap 1 ++ [.spawn .object "rock" .empty]
    let state := (history bellLibrary default operations).machine.state
    let log := soundEvents .recording (history bellLibrary default operations).trace
    log = [.play ⟨1⟩ 7 100 ⟨1⟩] ∧ state.heldChannels = [] ∧ state.sounds.channels ⟨1⟩ = [⟨1⟩] ∧
      ¬ state.SoundsAgree log := by
  intro rings operations state log
  obtain ⟨machine, told⟩ := @history_lap_spawn bellLibrary default rings 1 (by decide +kernel)
    (by decide +kernel) "rock"
  have rung : soundEvents .recording (history bellLibrary default rings).trace =
      [.play ⟨1⟩ 7 100 ⟨1⟩] := by decide +kernel
  have same : state = _ := congrArg Machine.state machine
  have heard : log = [.play ⟨1⟩ 7 100 ⟨1⟩] := told.trans rung
  have nothing : state.heldChannels = [] := by
    rw [same]
    decide +kernel
  refine ⟨heard, nothing, ?_, fun agree => ?_⟩
  · rw [same]
    decide +kernel
  · have active := agree.active
    rw [heard, nothing, List.mergeSort_nil] at active
    exact absurd active (by decide)

end Machine
end Lockstep
