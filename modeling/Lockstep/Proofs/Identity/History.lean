import Lockstep.Proofs.Machine.Chronicle
import Lockstep.Proofs.Sound.Bookkeeping
import Lockstep.Proofs.State.Births

/-!
# Identities in chronicles

The identities of entities, the numbers of threads and those of channels are given out in ascending
order, and never again, whatever is done with a machine and however often it goes on from a snapshot
(`Machine.chronicle_unrecycled`). So a frame or the table of avatars may refer to an entity that is
gone, but to no other one than before.

It is the counters that can fail, by running over. Entities, threads and channels are counted by how
many of them there really were in the chronicle, not by how many were asked for.
-/

set_option autoImplicit false

namespace Lockstep

/-- The channels that are opened in a chronicle, first one first. -/
def Chronicle.channels (chronicle : Chronicle) : List ChannelId :=
  playedChannels (soundEvents .recording chronicle.trace)

/-- What is said of the identities that were given out in a chronicle. -/
structure Chronicle.Unrecycled (chronicle : Chronicle) : Prop where
  entities : (births chronicle.passed).Pairwise fun earlier later =>
    earlier.1.number < later.1.number
  noZero : ∀ entry ∈ births chronicle.passed, entry.1.number ≠ 0
  threads : (starts chronicle.passed).Pairwise fun earlier later => earlier.1.seq < later.1.seq
  channels : chronicle.channels.Pairwise fun earlier later => earlier.number < later.number
  /-- Nothing was given out without being counted. -/
  counters : chronicle.machine.state.entities.nextId.toNat = (births chronicle.passed).length ∧
    chronicle.machine.state.nextThreadSeq.toNat = (starts chronicle.passed).length ∧
    chronicle.machine.state.sounds.nextChannel.toNat = chronicle.channels.length
  /-- Whoever is alive came under that identity, and is the one who came. -/
  living : ∀ earlier state later, chronicle.passed = earlier ++ state :: later →
    ∀ id entity, state.entities.get? id = some entity →
      ∃ original, (id, original) ∈ births (earlier ++ [state]) ∧ original.Lasts entity
  /-- Whoever is referred to had come by then. No other entity is ever found under that identity. -/
  references : ∀ earlier state later, chronicle.passed = earlier ++ state :: later →
    ∀ id, state.Refers id → ∃ original, (id, original) ∈ births (earlier ++ [state]) ∧
      ∀ moment ∈ chronicle.passed, ∀ entity, moment.entities.get? id = some entity →
        original.Lasts entity

/-! ## Channels -/

namespace State

/-- An edit opens no channel, or the next one. -/
theorem Edit.channels {before after : State} {deeds : List Deed} (edit : Edit before deeds after) :
    (playedChannels (soundsHeard deeds) = [] ∧
        after.sounds.nextChannel = before.sounds.nextChannel) ∨
      (playedChannels (soundsHeard deeds) = [⟨before.sounds.nextChannel + 1⟩] ∧
        after.sounds.nextChannel = before.sounds.nextChannel + 1) := by
  cases edit with
  | playSound => exact .inr ⟨rfl, rfl⟩
  | startThread started =>
    obtain ⟨_, _, rfl⟩ := startThread_eq started
    exact .inl ⟨rfl, rfl⟩
  | stopSounds owner =>
    rw [soundsHeard_heard]
    exact .inl ⟨playedChannels_releases _ _, rfl⟩
  | despawn despawned =>
    rw [soundsHeard_heard, soundEvents_of_despawn despawned]
    obtain ⟨gone, _, _, rfl⟩ := despawn_eq despawned
    exact .inl ⟨playedChannels_releases _ _, rfl⟩
  | _ => exact .inl ⟨rfl, rfl⟩

/-- The counter of channels has counted the plays, as long as it does not run over. -/
theorem Edits.channelsCounted {state : State} {deeds : List Deed}
    (edits : Edits State.empty deeds state)
    (quiet : (playedChannels (soundsHeard deeds)).length < 2 ^ 32) :
    Counted ((playedChannels (soundsHeard deeds)).map fun channel => channel.number.toNat)
      state.sounds.nextChannel.toNat := by
  induction edits with
  | none => exact .none
  | @more middle last earlier latest edits edit inductionHypothesis =>
    rw [soundsHeard_append, playedChannels_append] at quiet ⊢
    rw [List.length_append] at quiet
    have counted := inductionHypothesis (Nat.lt_of_le_of_lt (Nat.le_add_right _ _) quiet)
    obtain ⟨nothing, same⟩ | ⟨one, next⟩ := edit.channels
    · rw [nothing, same, List.append_nil]
      exact counted
    · have count := counted.count
      rw [List.length_map] at count
      rw [one, ← count] at quiet
      have number : (middle.sounds.nextChannel + 1).toNat =
          middle.sounds.nextChannel.toNat + 1 := by
        rw [UInt32.toNat_add]
        exact Nat.mod_eq_of_lt quiet
      rw [one, next, List.map_append, List.map_singleton, number]
      exact counted.next

end State

/-! ## Chronicles -/

/-- What is kept in a chronicle is enough for all that is said of its identities. -/
theorem Chronicle.Kept.unrecycled {chronicle : Chronicle} (kept : chronicle.Kept)
    (fewEntities : (births chronicle.passed).length < 2 ^ 32)
    (fewThreads : (starts chronicle.passed).length < 2 ^ 64)
    (fewChannels : chronicle.channels.length < 2 ^ 32) : chronicle.Unrecycled := by
  obtain ⟨route, deeds, edits, heard⟩ := kept
  have entities := route.entityLedger fewEntities
  have threads := route.threadLedger fewThreads
  have channels := edits.channelsCounted (heard ▸ fewChannels)
  rw [heard] at channels
  constructor
  case entities =>
    refine (List.pairwise_map.mp entities.counted.ascending).imp ?_
    exact UInt32.lt_iff_toNat_lt.mpr
  case noZero =>
    intro entry member zero
    have positive : 1 ≤ entry.1.number.toNat :=
      (entities.counted.bounds (List.mem_map_of_mem member)).1
    rw [zero] at positive
    exact absurd positive (Nat.not_succ_le_zero 0)
  case threads =>
    refine (List.pairwise_map.mp threads.counted.ascending).imp ?_
    exact UInt64.lt_iff_toNat_lt.mpr
  case channels =>
    refine (List.pairwise_map.mp channels.ascending).imp ?_
    exact UInt32.lt_iff_toNat_lt.mpr
  case counters =>
    exact ⟨entities.count_eq, threads.count_eq, channels.count.trans (List.length_map _)⟩
  case living =>
    intro earlier state later split id entity found
    rw [split] at route fewEntities
    exact route.living fewEntities found
  case references =>
    intro earlier state later split id refers
    obtain ⟨original, come⟩ : ∃ original, (id, original) ∈ births (earlier ++ [state]) := by
      rw [split] at route fewEntities
      exact route.upTo.referred (length_births_upTo_lt fewEntities) refers
    refine ⟨original, come, fun moment passing entity found => ?_⟩
    exact route.lasts fewEntities (split ▸ mem_births_of_upTo come) passing found

/-- **Identities are never given out again**, unless one of the counters runs over. The numbers of
entities, of threads and of channels ascend in the order in which they are given out. And whatever a
frame or the table of avatars refers to, at any moment of any tick, is the entity that came under
that identity or nobody, then and ever after. -/
theorem Machine.chronicle_unrecycled {library : Library} {settings : Settings}
    (happenings : List Happening)
    (packable : (Chronicle.new library settings).SnapshotsPackable happenings)
    (fewEntities : (births (chronicle library settings happenings).passed).length < 2 ^ 32)
    (fewThreads : (starts (chronicle library settings happenings).passed).length < 2 ^ 64)
    (fewChannels : (chronicle library settings happenings).channels.length < 2 ^ 32) :
    (chronicle library settings happenings).Unrecycled :=
  (chronicle_kept happenings packable).unrecycled fewEntities fewThreads fewChannels

/-- A library with one behavior, which plays a sound and sleeps. -/
def chimeLibrary : Library where
  behaviors := Table.empty.insert 300 ⟨300, "chime", 0, 0,
    [.ofOperand (.primitive (.playSound 7 100 ⟨0⟩)) 1 targetFalse,
      .ofOperand (.primitive (.sleep 9)) targetTrue targetFalse]⟩

/-- A client rings a chime and leaves after the machine has gone on from a snapshot. The thread of
the chime still refers to its avatar. What is made next gets another identity, which the thread does
not refer to. -/
theorem Machine.chronicle_unrecycled_chime :
    let settings : Settings := ⟨10, default⟩
    let happenings : List Happening :=
      [.operate (.spawn .object "chime" default), .operate (.tick [⟨1, 1, ⟨7⟩, .join "ada"⟩] 7),
        .operate (.tick [⟨2, 2, ⟨7⟩, .interact ⟨1⟩ 300 (Vector.replicate 4 0)⟩] 8),
        .restore chimeLibrary settings, .operate (.tick [⟨3, 3, ⟨7⟩, .leave⟩] 9),
        .operate (.spawn .object "bell" default)]
    let chronicle := chronicle chimeLibrary settings happenings
    let state := chronicle.machine.state
    (Chronicle.new chimeLibrary settings).SnapshotsPackable happenings ∧
      (births chronicle.passed).map (fun entry => (entry.1, entry.2.name)) =
        [(⟨1⟩, "chime"), (⟨2⟩, "ada"), (⟨3⟩, "bell")] ∧
      (starts chronicle.passed).map Prod.fst = [⟨⟨1⟩, 1⟩] ∧ chronicle.channels = [⟨1⟩] ∧
      (state.threads.get? ⟨⟨1⟩, 1⟩).map (fun thread => thread.frames.map StackFrame.caller) =
        some [some ⟨2⟩] ∧
      state.entities.entities.keys = [⟨1⟩, ⟨3⟩] ∧ chronicle.Unrecycled := by
  intro settings happenings chronicle state
  have packable : (Chronicle.new chimeLibrary settings).SnapshotsPackable happenings := by
    decide +kernel
  have born : (births chronicle.passed).map (fun entry => (entry.1, entry.2.name)) =
      [(⟨1⟩, "chime"), (⟨2⟩, "ada"), (⟨3⟩, "bell")] := by decide +kernel
  have started : (starts chronicle.passed).map Prod.fst = [⟨⟨1⟩, 1⟩] := by decide +kernel
  have opened : chronicle.channels = [⟨1⟩] := by decide +kernel
  have entities := congrArg List.length born
  have threads := congrArg List.length started
  rw [List.length_map] at entities threads
  refine ⟨packable, born, started, opened, by decide +kernel, by decide +kernel,
    chronicle_unrecycled happenings packable ?_ ?_ ?_⟩
  · exact Nat.lt_of_le_of_lt (Nat.le_of_eq entities) (by decide)
  · exact Nat.lt_of_le_of_lt (Nat.le_of_eq threads) (by decide)
  · exact Nat.lt_of_le_of_lt (Nat.le_of_eq (congrArg List.length opened)) (by decide)

end Lockstep
