import Lockstep.Trace
import Mathlib.Data.List.Nodup

/-!
# Logs of sounds

What the player of sounds was told is a log of events. A log is orderly (`Orderly`) when every play
opens a channel that was not opened before, and every release is of a channel that the same entity
had played and that was not released before. From this the log as a whole is read off: no channel
is played or released twice (`Orderly.playedOnce`, `Orderly.releasedOnce`), and each release comes
after the play with the same owner (`Orderly.releasedAfter`).

A play adds its channel at the end of the active ones, and releases take theirs out
(`activeChannels_play`, `activeChannels_releases`).
-/

set_option autoImplicit false

namespace Lockstep

/-! ## What a log is about -/

/-- The channel that an event plays, if it does. -/
def SoundEvent.played? : SoundEvent → Option ChannelId
  | .play channel .. => some channel
  | .release .. => none

/-- The channel that an event releases, if it does. -/
def SoundEvent.released? : SoundEvent → Option ChannelId
  | .play .. => none
  | .release channel _ => some channel

/-- The channels that were played, in the order of their plays. -/
def playedChannels (log : List SoundEvent) : List ChannelId := log.filterMap SoundEvent.played?

/-- The channels that were released, in the order of their releases. -/
def releasedChannels (log : List SoundEvent) : List ChannelId :=
  log.filterMap SoundEvent.released?

/-- An entity has played on a channel. -/
def PlayedBy (log : List SoundEvent) (owner : EntityId) (channel : ChannelId) : Prop :=
  ∃ sound volume, SoundEvent.play channel sound volume owner ∈ log

/-- The releases of some channels of an entity. -/
def releases (channels : List ChannelId) (owner : EntityId) : List SoundEvent :=
  channels.map fun channel => .release channel owner

theorem playedChannels_append (first second : List SoundEvent) :
    playedChannels (first ++ second) = playedChannels first ++ playedChannels second :=
  List.filterMap_append

theorem releasedChannels_append (first second : List SoundEvent) :
    releasedChannels (first ++ second) = releasedChannels first ++ releasedChannels second :=
  List.filterMap_append

@[simp] theorem playedChannels_releases (channels : List ChannelId) (owner : EntityId) :
    playedChannels (releases channels owner) = [] := by
  rw [playedChannels, releases, List.filterMap_map]
  exact List.filterMap_eq_nil_iff.mpr fun _ _ => rfl

@[simp] theorem releasedChannels_releases (channels : List ChannelId) (owner : EntityId) :
    releasedChannels (releases channels owner) = channels := by
  rw [releasedChannels, releases, List.filterMap_map]
  exact List.filterMap_some

theorem soundEvents_append (route : SoundRoute) (first second : List TraceEntry) :
    soundEvents route (first ++ second) = soundEvents route first ++ soundEvents route second :=
  List.filterMap_append

theorem soundEvents_releases (channels : List ChannelId) (owner : EntityId) :
    soundEvents .recording (channels.map fun channel => .sound (.release channel owner)) =
      releases channels owner := by
  rw [soundEvents, List.filterMap_map, releases]
  exact congrFun List.filterMap_eq_map channels

theorem PlayedBy.append {log : List SoundEvent} {owner : EntityId} {channel : ChannelId}
    (played : PlayedBy log owner channel) (later : List SoundEvent) :
    PlayedBy (log ++ later) owner channel := by
  obtain ⟨sound, volume, member⟩ := played
  exact ⟨sound, volume, List.mem_append_left later member⟩

theorem PlayedBy.mem {log : List SoundEvent} {owner : EntityId} {channel : ChannelId}
    (played : PlayedBy log owner channel) : channel ∈ playedChannels log := by
  obtain ⟨sound, volume, member⟩ := played
  exact List.mem_filterMap.mpr ⟨_, member, rfl⟩

theorem PlayedBy.of_play {log : List SoundEvent} {owner player : EntityId}
    {channel latest : ChannelId} {sound : UInt32} {volume : UInt8}
    (played : PlayedBy (log ++ [.play latest sound volume player]) owner channel) :
    PlayedBy log owner channel ∨ (channel = latest ∧ owner = player) := by
  obtain ⟨heard, level, member⟩ := played
  obtain old | single := List.mem_append.mp member
  · exact .inl ⟨heard, level, old⟩
  · obtain ⟨same, _, _, owner⟩ := SoundEvent.play.inj (List.mem_singleton.mp single)
    exact .inr ⟨same, owner⟩

theorem PlayedBy.of_release {log : List SoundEvent} {owner holder : EntityId}
    {channel latest : ChannelId}
    (played : PlayedBy (log ++ [.release latest holder]) owner channel) :
    PlayedBy log owner channel := by
  obtain ⟨heard, level, member⟩ := played
  obtain old | single := List.mem_append.mp member
  · exact ⟨heard, level, old⟩
  · exact absurd (List.mem_singleton.mp single) (by simp)

/-! ## Active channels -/

theorem activeChannels_play (log : List SoundEvent) (channel : ChannelId) (sound : UInt32)
    (volume : UInt8) (owner : EntityId) :
    activeChannels (log ++ [.play channel sound volume owner]) =
      activeChannels log ++ [channel] := by
  rw [activeChannels, List.foldl_append]
  rfl

theorem activeChannels_release (log : List SoundEvent) (channel : ChannelId) (owner : EntityId) :
    activeChannels (log ++ [.release channel owner]) =
      (activeChannels log).filter (· ≠ channel) := by
  rw [activeChannels, List.foldl_append]
  rfl

theorem activeChannels_releases (log : List SoundEvent) (channels : List ChannelId)
    (owner : EntityId) :
    activeChannels (log ++ releases channels owner) =
      (activeChannels log).filter (· ∉ channels) := by
  induction channels generalizing log with
  | nil =>
    rw [releases, List.map_nil, List.append_nil]
    exact (List.filter_eq_self.mpr fun channel _ => by simp).symm
  | cons channel rest inductionHypothesis =>
    have split : log ++ releases (channel :: rest) owner =
        (log ++ [.release channel owner]) ++ releases rest owner := by
      rw [List.append_assoc]
      rfl
    rw [split, inductionHypothesis, activeChannels_release, List.filter_filter]
    refine List.filter_congr fun other _ => ?_
    simp [Bool.and_comm]

/-! ## Orderly logs -/

/-- Every play is of a channel that is new, and every release of one that its owner has played and
that was not released. -/
inductive Orderly : List SoundEvent → Prop where
  | silence : Orderly []
  | play {log : List SoundEvent} {channel : ChannelId} (sound : UInt32) (volume : UInt8)
      (owner : EntityId) : Orderly log → channel ∉ playedChannels log →
        Orderly (log ++ [.play channel sound volume owner])
  | release {log : List SoundEvent} {channel : ChannelId} {owner : EntityId} : Orderly log →
      PlayedBy log owner channel → channel ∉ releasedChannels log →
        Orderly (log ++ [.release channel owner])

namespace Orderly

variable {log : List SoundEvent}

/-- Some different channels of an entity are released, all of which are active. -/
theorem releases {channels : List ChannelId} {owner : EntityId} (orderly : Orderly log)
    (distinct : channels.Nodup) (played : ∀ channel ∈ channels, PlayedBy log owner channel)
    (unreleased : ∀ channel ∈ channels, channel ∉ releasedChannels log) :
    Orderly (log ++ releases channels owner) := by
  induction channels generalizing log with
  | nil =>
    rw [Lockstep.releases, List.map_nil, List.append_nil]
    exact orderly
  | cons channel rest inductionHypothesis =>
    obtain ⟨fresh, distinct⟩ := List.nodup_cons.mp distinct
    have split : log ++ Lockstep.releases (channel :: rest) owner =
        (log ++ [.release channel owner]) ++ Lockstep.releases rest owner := by
      rw [List.append_assoc]
      rfl
    rw [split]
    refine inductionHypothesis
      (.release orderly (played channel List.mem_cons_self) (unreleased channel List.mem_cons_self))
      distinct (fun other member => ?_) (fun other member => ?_)
    · exact (played other (List.mem_cons_of_mem channel member)).append _
    · rw [releasedChannels_append, List.mem_append, not_or]
      refine ⟨unreleased other (List.mem_cons_of_mem channel member), fun same => ?_⟩
      rw [List.mem_singleton.mp same] at member
      exact fresh member

theorem playedOnce (orderly : Orderly log) : (playedChannels log).Nodup := by
  induction orderly with
  | silence => exact .nil
  | play sound volume owner _ fresh inductionHypothesis =>
    rw [playedChannels_append]
    have distinct := inductionHypothesis.concat fresh
    rwa [List.concat_eq_append] at distinct
  | release _ _ _ inductionHypothesis =>
    rw [playedChannels_append]
    exact (List.append_nil _).symm ▸ inductionHypothesis

theorem releasedOnce (orderly : Orderly log) : (releasedChannels log).Nodup := by
  induction orderly with
  | silence => exact .nil
  | play sound volume owner _ _ inductionHypothesis =>
    rw [releasedChannels_append]
    exact (List.append_nil _).symm ▸ inductionHypothesis
  | release _ _ fresh inductionHypothesis =>
    rw [releasedChannels_append]
    have distinct := inductionHypothesis.concat fresh
    rwa [List.concat_eq_append] at distinct

/-- An event of a log with one more event is that event or one of the log. -/
theorem split_concat {before after : List SoundEvent} {event last : SoundEvent}
    (split : log ++ [last] = before ++ event :: after) :
    (log = before ∧ last = event) ∨ ∃ rest, log = before ++ event :: rest := by
  obtain ⟨rest, same, tail⟩ | ⟨rest, same, tail⟩ := List.append_eq_append_iff.mp split
  · cases rest with
    | nil =>
      rw [List.append_nil] at same
      exact .inl ⟨same.symm, (List.cons.inj tail).1⟩
    | cons head rest => exact absurd (List.cons.inj tail).2.symm (by simp)
  · cases rest with
    | nil =>
      rw [List.append_nil] at same
      exact .inl ⟨same, (List.cons.inj tail).1.symm⟩
    | cons head rest =>
      obtain ⟨rfl, _⟩ := List.cons.inj tail
      exact .inr ⟨rest, same⟩

theorem releasedAfter (orderly : Orderly log) {before after : List SoundEvent}
    {channel : ChannelId} {owner : EntityId}
    (split : log = before ++ .release channel owner :: after) :
    PlayedBy before owner channel := by
  induction orderly generalizing after with
  | silence => exact absurd split (by simp)
  | play sound volume player _ _ inductionHypothesis =>
    obtain ⟨_, same⟩ | ⟨rest, earlier⟩ := split_concat split
    · exact absurd same (by simp)
    · exact inductionHypothesis earlier
  | release _ played _ inductionHypothesis =>
    obtain ⟨rfl, same⟩ | ⟨rest, earlier⟩ := split_concat split
    · obtain ⟨rfl, rfl⟩ := SoundEvent.release.inj same
      exact played
    · exact inductionHypothesis earlier

/-- What was released had been played. -/
theorem played_of_released (orderly : Orderly log) {channel : ChannelId}
    (released : channel ∈ releasedChannels log) : channel ∈ playedChannels log := by
  induction orderly with
  | silence => exact released
  | play sound volume owner _ _ inductionHypothesis =>
    rw [releasedChannels_append] at released
    rw [playedChannels_append]
    obtain old | none := List.mem_append.mp released
    · exact List.mem_append_left _ (inductionHypothesis old)
    · exact absurd none List.not_mem_nil
  | release _ played _ inductionHypothesis =>
    rw [releasedChannels_append] at released
    rw [playedChannels_append]
    obtain old | single := List.mem_append.mp released
    · exact List.mem_append_left _ (inductionHypothesis old)
    · rw [List.mem_singleton.mp single]
      exact List.mem_append_left _ played.mem

/-- A channel was played by one entity only. -/
theorem owner_unique (orderly : Orderly log) {channel : ChannelId} {first second : EntityId}
    (firstPlayed : PlayedBy log first channel) (secondPlayed : PlayedBy log second channel) :
    first = second := by
  induction orderly with
  | silence =>
    obtain ⟨_, _, member⟩ := firstPlayed
    exact absurd member List.not_mem_nil
  | play sound volume player _ fresh inductionHypothesis =>
    obtain old | ⟨rfl, rfl⟩ := firstPlayed.of_play
    · obtain other | ⟨rfl, rfl⟩ := secondPlayed.of_play
      · exact inductionHypothesis old other
      · exact absurd old.mem fresh
    · obtain other | ⟨_, rfl⟩ := secondPlayed.of_play
      · exact absurd other.mem fresh
      · rfl
  | release _ _ _ inductionHypothesis =>
    exact inductionHypothesis firstPlayed.of_release secondPlayed.of_release

end Orderly
end Lockstep
