import Lockstep.Proofs.Entity.Field
import Lockstep.Proofs.Sound.Log
import Lockstep.Proofs.State.Numbered

/-!
# Three books of sounds

The channels that are open are written down in three places: each entity lists the sounds that it
is making, the index has the channels of each entity, and the player of sounds has its log. The
three agree (`State.Audible`). Every edit keeps this, as long as the counters do not run over,
so it holds wherever edits lead from the empty state (`State.Edits.audible`).

What edits do to sounds is one of three things. Either the sounds of no entity change, or one
entity plays a sound on a new channel (`State.Audible.play`), or one entity falls silent
(`State.Audible.silence`), because its sounds are stopped or because it goes.
-/

set_option autoImplicit false

namespace Lockstep

/-! ## Sounds of entities -/

namespace EntityTable

/-- The sounds that an entity is making. An entity that is not alive makes none. -/
def soundsOf (table : EntityTable) (id : EntityId) : List SoundChannel :=
  ((table.get? id).map Entity.sounds).getD []

/-- The channels that an entity holds. -/
def channelsOf (table : EntityTable) (id : EntityId) : List ChannelId :=
  (table.soundsOf id).map SoundChannel.channel

theorem soundsOf_of_get? {table : EntityTable} {id : EntityId} {entity : Entity}
    (found : table.get? id = some entity) : table.soundsOf id = entity.sounds :=
  field_of_get? found Entity.sounds []

theorem soundsOf_of_not_contains {table : EntityTable} {id : EntityId}
    (absent : ¬ table.contains id = true) : table.soundsOf id = [] :=
  field_of_not_contains absent Entity.sounds []

theorem soundsOf_modify (table : EntityTable) (id probe : EntityId) (change : Entity → Entity) :
    (table.modify id change).soundsOf probe =
      if probe = id then ((table.get? id).map fun entity => (change entity).sounds).getD []
      else table.soundsOf probe :=
  field_modify table id probe change Entity.sounds []

/-- A change that leaves the sounds of its entity alone leaves the sounds of all alone. -/
theorem soundsOf_modify_same (table : EntityTable) (id probe : EntityId)
    {change : Entity → Entity} (kept : ∀ entity, (change entity).sounds = entity.sounds) :
    (table.modify id change).soundsOf probe = table.soundsOf probe :=
  field_modify_same table id probe [] kept

theorem soundsOf_allocate {table : EntityTable}
    (fresh : ¬ table.contains ⟨table.nextId + 1⟩ = true) (kind : EntityKind) (name : String)
    (template : EntityTemplate) (probe : EntityId) :
    (table.allocate kind name template).2.soundsOf probe = table.soundsOf probe :=
  field_allocate fresh kind name template probe rfl

theorem soundsOf_erase (table : EntityTable) (id probe : EntityId) :
    (table.erase id).soundsOf probe = if probe = id then [] else table.soundsOf probe :=
  field_erase table id probe Entity.sounds []

theorem soundsOf_cutLinks (table : EntityTable) (gone : Entity) (id probe : EntityId) :
    (State.cutLinks table gone id).soundsOf probe = table.soundsOf probe :=
  field_cutLinks table gone id probe [] fun _ _ _ _ => rfl

end EntityTable

/-! ## The index -/

namespace SoundIndex

theorem channels_insert (index : SoundIndex) (owner : EntityId) (channel : ChannelId)
    (probe : EntityId) (other : ChannelId) :
    other ∈ (index.insert owner channel).channels probe ↔
      (probe = owner ∧ other = channel) ∨ other ∈ index.channels probe := by
  have held : (index.insert owner channel).byOwner.get? probe = _ :=
    Table.get?_insert index.byOwner owner probe _
  rw [channels, channelSet, held, Table.mem_keys]
  by_cases same : probe = owner
  · rw [if_pos same, Option.getD_some, Table.contains_insert_iff, same, channels, Table.mem_keys]
    simp
  · rw [if_neg same, channels, Table.mem_keys, channelSet]
    simp [same]

theorem channels_removeOwner (index : SoundIndex) (owner probe : EntityId) :
    (index.removeOwner owner).channels probe =
      if probe = owner then [] else index.channels probe := by
  have held : (index.removeOwner owner).byOwner.get? probe = _ :=
    Table.get?_erase index.byOwner owner probe
  rw [channels, channelSet, held]
  split <;> rfl

theorem containsOwner_insert (index : SoundIndex) (owner : EntityId) (channel : ChannelId)
    (probe : EntityId) : (index.insert owner channel).containsOwner probe = true ↔
      probe = owner ∨ index.containsOwner probe = true :=
  Table.contains_insert_iff

theorem containsOwner_removeOwner (index : SoundIndex) (owner probe : EntityId) :
    (index.removeOwner owner).containsOwner probe = true ↔
      probe ≠ owner ∧ index.containsOwner probe = true :=
  Table.contains_erase_iff

theorem contains_foldl_insert (channels : List ChannelId) (set : KeySet ChannelId)
    (probe : ChannelId) :
    (channels.foldl (fun set channel => set.insert channel ()) set).contains probe = true ↔
      probe ∈ channels ∨ set.contains probe = true := by
  induction channels generalizing set with
  | nil => simp
  | cons channel rest inductionHypothesis =>
    rw [List.foldl_cons, inductionHypothesis, Table.contains_insert_iff, List.mem_cons,
      or_left_comm, or_assoc]

end SoundIndex

namespace State

/-- What is stopped is what the index has of the entity and what the entity itself holds. -/
theorem mem_stopped {state : State} {owner : EntityId} {channel : ChannelId} :
    channel ∈ state.stopped owner ↔
      channel ∈ state.entities.channelsOf owner ∨ channel ∈ state.sounds.channels owner := by
  have same : state.stopped owner = ((state.entities.channelsOf owner).foldl
      (fun set channel => set.insert channel ()) (state.sounds.channelSet owner)).keys := by
    rw [stopped, releaseSounds, EntityTable.channelsOf, EntityTable.soundsOf]
    cases state.entities.get? owner <;> rfl
  rw [same, Table.mem_keys, SoundIndex.contains_foldl_insert, SoundIndex.channels, Table.mem_keys]

theorem stopped_nodup (state : State) (owner : EntityId) : (state.stopped owner).Nodup :=
  Table.keys_nodup _

/-! ## The three books -/

/-- The sounds of entities, the index and the log agree. -/
structure Audible (state : State) (log : List SoundEvent) : Prop where
  /-- The index has the channels that entities hold. -/
  index : ∀ owner channel, channel ∈ state.sounds.channels owner ↔
    channel ∈ state.entities.channelsOf owner
  /-- It has no entry for an entity without sounds. -/
  entries : ∀ owner, state.sounds.containsOwner owner = true → state.entities.soundsOf owner ≠ []
  owners : ∀ owner, ∀ sound ∈ state.entities.soundsOf owner, sound.owner = owner
  distinct : ∀ owner, (state.entities.channelsOf owner).Nodup
  orderly : Orderly log
  played : ∀ owner, ∀ channel ∈ state.entities.channelsOf owner, PlayedBy log owner channel
  /-- What is active for the player is what some entity holds. -/
  active : ∀ channel, channel ∈ activeChannels log ↔
    ∃ owner, channel ∈ state.entities.channelsOf owner
  ascending : (activeChannels log).Pairwise fun first second => first.number < second.number
  released : ∀ channel ∈ activeChannels log, channel ∉ releasedChannels log
  /-- Every play has used up one number. -/
  count : (playedChannels log).length = state.sounds.nextChannel.toNat
  bound : ∀ channel ∈ playedChannels log, channel.number ≤ state.sounds.nextChannel

theorem audible_empty : State.empty.Audible [] where
  index _ _ := Iff.rfl
  entries _ present := absurd present Bool.false_ne_true
  owners _ _ member := absurd member List.not_mem_nil
  distinct _ := .nil
  orderly := .silence
  played _ _ member := absurd member List.not_mem_nil
  active _ := ⟨fun member => absurd member List.not_mem_nil,
    fun ⟨_, member⟩ => absurd member List.not_mem_nil⟩
  ascending := .nil
  released _ member := absurd member List.not_mem_nil
  count := rfl
  bound _ member := absurd member List.not_mem_nil

namespace Audible

variable {state next : State} {log : List SoundEvent}

/-- The sounds of no entity change, and neither does the index. -/
theorem congr (audible : state.Audible log)
    (sounds : ∀ owner, next.entities.soundsOf owner = state.entities.soundsOf owner)
    (index : next.sounds = state.sounds) : next.Audible log := by
  have channels : ∀ owner, next.entities.channelsOf owner = state.entities.channelsOf owner :=
    fun owner => congrArg (List.map SoundChannel.channel) (sounds owner)
  constructor
  case index =>
    intro owner channel
    rw [index, channels]
    exact audible.index owner channel
  case entries =>
    intro owner present
    rw [index] at present
    rw [sounds]
    exact audible.entries owner present
  case owners =>
    intro owner
    rw [sounds]
    exact audible.owners owner
  case distinct =>
    intro owner
    rw [channels]
    exact audible.distinct owner
  case orderly => exact audible.orderly
  case played =>
    intro owner
    rw [channels]
    exact audible.played owner
  case active =>
    intro channel
    refine (audible.active channel).trans (exists_congr fun owner => ?_)
    rw [channels]
  case ascending => exact audible.ascending
  case released => exact audible.released
  case count =>
    rw [index]
    exact audible.count
  case bound =>
    rw [index]
    exact audible.bound

/-! ### An entity falls silent -/

theorem stopped_iff (audible : state.Audible log) {owner : EntityId} {channel : ChannelId} :
    channel ∈ state.stopped owner ↔ channel ∈ state.entities.channelsOf owner := by
  rw [mem_stopped, audible.index, or_self]

/-- What an entity holds when another one has fallen silent. -/
theorem mem_channelsOf_silence {owner : EntityId}
    (sounds : ∀ probe, next.entities.soundsOf probe =
      if probe = owner then [] else state.entities.soundsOf probe)
    (probe : EntityId) (channel : ChannelId) :
    channel ∈ next.entities.channelsOf probe ↔
      probe ≠ owner ∧ channel ∈ state.entities.channelsOf probe := by
  rw [EntityTable.channelsOf, sounds]
  by_cases same : probe = owner
  · rw [if_pos same]
    exact ⟨fun member => absurd member List.not_mem_nil, fun member => absurd same member.1⟩
  · rw [if_neg same]
    exact ⟨fun member => ⟨same, member⟩, fun member => member.2⟩

/-- One entity has fallen silent, and its channels were released. -/
theorem silence (audible : state.Audible log) (owner : EntityId)
    (sounds : ∀ probe, next.entities.soundsOf probe =
      if probe = owner then [] else state.entities.soundsOf probe)
    (index : next.sounds = state.sounds.removeOwner owner) :
    next.Audible (log ++ releases (state.stopped owner) owner) := by
  have hold := mem_channelsOf_silence sounds
  constructor
  case index =>
    intro probe channel
    rw [hold, index, SoundIndex.channels_removeOwner, ← audible.index]
    by_cases same : probe = owner
    · rw [if_pos same]
      exact ⟨fun member => absurd member List.not_mem_nil, fun member => absurd same member.1⟩
    · rw [if_neg same]
      exact ⟨fun member => ⟨same, member⟩, fun member => member.2⟩
  case entries =>
    intro probe present
    rw [index, SoundIndex.containsOwner_removeOwner] at present
    rw [sounds, if_neg present.1]
    exact audible.entries probe present.2
  case owners =>
    intro probe sound member
    rw [sounds] at member
    split at member
    · exact absurd member List.not_mem_nil
    · exact audible.owners probe sound member
  case distinct =>
    intro probe
    rw [EntityTable.channelsOf, sounds]
    split
    · exact .nil
    · exact audible.distinct probe
  case orderly =>
    refine audible.orderly.releases (state.stopped_nodup owner) ?_ ?_
    · intro channel member
      exact audible.played owner channel (audible.stopped_iff.mp member)
    · intro channel member
      exact audible.released channel
        ((audible.active channel).mpr ⟨owner, audible.stopped_iff.mp member⟩)
  case played =>
    intro probe channel member
    exact (audible.played probe channel ((hold probe channel).mp member).2).append _
  case active =>
    intro channel
    rw [activeChannels_releases, List.mem_filter, decide_eq_true_eq, audible.stopped_iff,
      audible.active]
    constructor
    · rintro ⟨⟨probe, member⟩, unheld⟩
      exact ⟨probe, (hold probe channel).mpr ⟨fun same => unheld (same ▸ member), member⟩⟩
    · rintro ⟨probe, member⟩
      obtain ⟨apart, held⟩ := (hold probe channel).mp member
      refine ⟨⟨probe, held⟩, fun other => apart ?_⟩
      exact audible.orderly.owner_unique (audible.played probe channel held)
        (audible.played owner channel other)
  case ascending =>
    rw [activeChannels_releases]
    exact audible.ascending.filter _
  case released =>
    intro channel member
    rw [activeChannels_releases, List.mem_filter, decide_eq_true_eq] at member
    rw [releasedChannels_append, releasedChannels_releases, List.mem_append, not_or]
    exact ⟨audible.released channel member.1, member.2⟩
  case count =>
    rw [playedChannels_append, playedChannels_releases, List.append_nil, index]
    exact audible.count
  case bound =>
    rw [playedChannels_append, playedChannels_releases, List.append_nil, index]
    exact audible.bound

/-! ### An entity plays a sound -/

theorem mem_played_of_held (audible : state.Audible log) {owner : EntityId} {channel : ChannelId}
    (held : channel ∈ state.entities.channelsOf owner) : channel ∈ playedChannels log :=
  (audible.played owner channel held).mem

theorem mem_played_of_active (audible : state.Audible log) {channel : ChannelId}
    (active : channel ∈ activeChannels log) : channel ∈ playedChannels log := by
  obtain ⟨owner, held⟩ := (audible.active channel).mp active
  exact audible.mem_played_of_held held

theorem number_allocate (audible : state.Audible log)
    (few : (playedChannels log).length + 1 < 2 ^ 32) :
    state.sounds.allocate.1.number.toNat = state.sounds.nextChannel.toNat + 1 := by
  show (state.sounds.nextChannel + 1).toNat = _
  rw [audible.count] at few
  rw [UInt32.toNat_add]
  exact Nat.mod_eq_of_lt few

/-- All channels that were played have smaller numbers than the next one. -/
theorem lt_allocate (audible : state.Audible log)
    (few : (playedChannels log).length + 1 < 2 ^ 32) {channel : ChannelId}
    (member : channel ∈ playedChannels log) :
    channel.number < state.sounds.allocate.1.number := by
  have bound := UInt32.le_iff_toNat_le.mp (audible.bound channel member)
  have number := audible.number_allocate few
  exact UInt32.lt_iff_toNat_lt.mpr (number ▸ Nat.lt_succ_of_le bound)

theorem allocate_fresh (audible : state.Audible log)
    (few : (playedChannels log).length + 1 < 2 ^ 32) :
    state.sounds.allocate.1 ∉ playedChannels log :=
  fun member => absurd (audible.lt_allocate few member) (UInt32.lt_irrefl _)

/-- What an entity holds when one has played a sound. -/
theorem mem_channelsOf_play {owner : EntityId} {sound : SoundChannel}
    (sounds : ∀ probe, next.entities.soundsOf probe =
      if probe = owner then state.entities.soundsOf owner ++ [sound]
      else state.entities.soundsOf probe)
    (probe : EntityId) (channel : ChannelId) :
    channel ∈ next.entities.channelsOf probe ↔
      (probe = owner ∧ channel = sound.channel) ∨ channel ∈ state.entities.channelsOf probe := by
  rw [EntityTable.channelsOf, sounds]
  by_cases same : probe = owner
  · rw [if_pos same, List.map_append, List.mem_append, same]
    show channel ∈ state.entities.channelsOf owner ∨ channel ∈ [sound.channel] ↔ _
    rw [List.mem_singleton, or_comm]
    simp
  · simp [same, EntityTable.channelsOf]

/-- One entity has played a sound on the next channel. -/
theorem play (audible : state.Audible log) (owner : EntityId) (sound : UInt32) (volume : UInt8)
    (looping : Bool) (few : (playedChannels log).length + 1 < 2 ^ 32)
    (sounds : ∀ probe, next.entities.soundsOf probe =
      if probe = owner then
        state.entities.soundsOf owner ++
          [⟨state.sounds.allocate.1, sound, volume, looping, owner⟩]
      else state.entities.soundsOf probe)
    (index : next.sounds =
      state.sounds.allocate.2.insert owner state.sounds.allocate.1) :
    next.Audible (log ++ [.play state.sounds.allocate.1 sound volume owner]) := by
  have fresh := audible.allocate_fresh few
  have hold := mem_channelsOf_play sounds
  constructor
  case index =>
    intro probe other
    rw [index, SoundIndex.channels_insert, hold]
    exact or_congr Iff.rfl (audible.index probe other)
  case entries =>
    intro probe present
    rw [index, SoundIndex.containsOwner_insert] at present
    rw [sounds]
    by_cases same : probe = owner
    · rw [if_pos same]
      exact List.append_ne_nil_of_right_ne_nil _ (List.cons_ne_nil _ _)
    · rw [if_neg same]
      exact audible.entries probe (present.resolve_left same)
  case owners =>
    intro probe held member
    rw [sounds] at member
    by_cases same : probe = owner
    · rw [if_pos same] at member
      obtain old | single := List.mem_append.mp member
      · exact same ▸ audible.owners owner held old
      · rw [List.mem_singleton.mp single, same]
    · rw [if_neg same] at member
      exact audible.owners probe held member
  case distinct =>
    intro probe
    rw [EntityTable.channelsOf, sounds]
    split
    · have unheld : state.sounds.allocate.1 ∉ state.entities.channelsOf owner := fun held =>
        fresh (audible.mem_played_of_held held)
      have distinct := (audible.distinct owner).concat unheld
      rw [List.concat_eq_append] at distinct
      rw [List.map_append]
      exact distinct
    · exact audible.distinct probe
  case orderly => exact .play sound volume owner audible.orderly fresh
  case played =>
    intro probe other member
    obtain ⟨rfl, rfl⟩ | old := (hold probe other).mp member
    · exact ⟨sound, volume, List.mem_append_right _ List.mem_cons_self⟩
    · exact (audible.played probe other old).append _
  case active =>
    intro other
    rw [activeChannels_play, List.mem_append, List.mem_singleton, audible.active]
    constructor
    · rintro (⟨probe, held⟩ | rfl)
      · exact ⟨probe, (hold probe other).mpr (.inr held)⟩
      · exact ⟨owner, (hold owner _).mpr (.inl ⟨rfl, rfl⟩)⟩
    · rintro ⟨probe, held⟩
      obtain ⟨_, same⟩ | old := (hold probe other).mp held
      · exact .inr same
      · exact .inl ⟨probe, old⟩
  case ascending =>
    rw [activeChannels_play, List.pairwise_append]
    refine ⟨audible.ascending, List.pairwise_singleton _ _, ?_⟩
    intro other member latest single
    rw [List.mem_singleton.mp single]
    exact audible.lt_allocate few (audible.mem_played_of_active member)
  case released =>
    intro other member
    rw [activeChannels_play, List.mem_append, List.mem_singleton] at member
    rw [releasedChannels_append, List.mem_append, not_or]
    obtain old | rfl := member
    · exact ⟨audible.released other old, List.not_mem_nil⟩
    · exact ⟨fun gone => fresh (audible.orderly.played_of_released gone), List.not_mem_nil⟩
  case count =>
    rw [playedChannels_append, List.length_append, audible.count, index]
    exact (audible.number_allocate few).symm
  case bound =>
    intro other member
    rw [index]
    show other.number ≤ state.sounds.allocate.1.number
    rw [playedChannels_append, List.mem_append] at member
    obtain old | single := member
    · exact UInt32.le_of_lt (audible.lt_allocate few old)
    · rw [List.mem_singleton.mp single]
      exact UInt32.le_refl _

/-! ### The index is refreshed -/

/-- Refreshing the index changes nothing when it is right. -/
theorem refresh (audible : state.Audible log) :
    state.sounds.refresh state.entities = state.sounds := by
  have same : (state.sounds.refresh state.entities).byOwner = state.sounds.byOwner := by
    refine Table.ext_get? fun owner => ?_
    rw [SoundIndex.refresh]
    dsimp only
    rw [Table.get?_filter, Table.get?_mapValues]
    cases entry : state.sounds.byOwner.get? owner with
    | none => rfl
    | some channels =>
      have listed : state.sounds.channels owner = channels.keys := by
        rw [SoundIndex.channels, SoundIndex.channelSet, entry]
        rfl
      have sounding := audible.entries owner (Table.contains_of_get? entry)
      obtain ⟨entity, alive⟩ : ∃ entity, state.entities.get? owner = some entity := by
        refine Table.contains_iff.mp (Decidable.by_contra fun absent => sounding ?_)
        exact EntityTable.soundsOf_of_not_contains absent
      have held : ∀ channel, channel ∈ channels.keys ↔
          channel ∈ entity.sounds.map SoundChannel.channel := by
        intro channel
        rw [← listed, audible.index, EntityTable.channelsOf, EntityTable.soundsOf_of_get? alive]
      have kept : channels.filter (fun channel _ =>
          entity.sounds.any fun sound => sound.channel = channel) = channels := by
        refine Table.filter_eq_self fun channel _ present => List.any_eq_true.mpr ?_
        have member := (held channel).mp (Table.mem_keys.mpr (Table.contains_of_get? present))
        obtain ⟨sound, listed, rfl⟩ := List.mem_map.mp member
        exact ⟨sound, listed, decide_eq_true rfl⟩
      rw [EntityTable.soundsOf_of_get? alive] at sounding
      obtain ⟨sound, member⟩ := List.exists_mem_of_ne_nil _ sounding
      have full := Table.size_ne_zero_of_mem
        ((held sound.channel).mpr (List.mem_map.mpr ⟨sound, member, rfl⟩))
      rw [Option.map_some, alive]
      dsimp only
      rw [kept, Option.filter_some, if_pos (decide_eq_true full)]
  exact congrArg (fun byOwner => (⟨byOwner, state.sounds.nextChannel⟩ : SoundIndex)) same

/-- One entity has changed, but not its sounds. -/
theorem modify (audible : state.Audible log) {id : EntityId} {change : Entity → Entity}
    (entities : next.entities = state.entities.modify id change)
    (kept : ∀ entity, (change entity).sounds = entity.sounds)
    (index : next.sounds = state.sounds) : next.Audible log := by
  refine audible.congr (fun owner => ?_) index
  rw [entities]
  exact EntityTable.soundsOf_modify_same state.entities id owner kept

/-- Nothing was added to the log. -/
theorem unheard (audible : state.Audible log) : state.Audible (log ++ []) :=
  (List.append_nil log).symm ▸ audible

end Audible

/-! ## Edits -/

/-- An entity that goes has its channels released. -/
theorem soundEvents_of_despawn {state next : State} {id : EntityId} {trace : List TraceEntry}
    (despawned : state.despawn id = some (trace, next)) :
    soundEvents .recording trace = releases (state.stopped id) id := by
  obtain ⟨gone, _, rfl, _⟩ := despawn_eq despawned
  rw [← soundEvents_releases, soundEvents_append]
  exact List.append_nil _

theorem soundsOf_stopSounds (state : State) (id probe : EntityId) :
    (state.stopSounds id).entities.soundsOf probe =
      if probe = id then [] else state.entities.soundsOf probe := by
  have modified : (state.stopSounds id).entities.soundsOf probe = _ :=
    EntityTable.soundsOf_modify state.entities id probe fun entity => { entity with sounds := [] }
  rw [modified]
  cases state.entities.get? id <;> rfl

theorem soundsOf_despawned (state : State) (gone : Entity) (id probe : EntityId) :
    (cutLinks ((state.stopSounds id).entities.erase id) gone id).soundsOf probe =
      if probe = id then [] else state.entities.soundsOf probe := by
  rw [EntityTable.soundsOf_cutLinks, EntityTable.soundsOf_erase, soundsOf_stopSounds]
  split <;> rfl

theorem soundsOf_playSound {state : State} {owner : EntityId} (sound : UInt32) (volume : UInt8)
    (looping : Bool) (alive : state.entities.contains owner = true) (probe : EntityId) :
    (state.playSound owner sound volume looping).entities.soundsOf probe =
      if probe = owner then
        state.entities.soundsOf owner ++
          [⟨state.sounds.allocate.1, sound, volume, looping, owner⟩]
      else state.entities.soundsOf probe := by
  obtain ⟨entity, found⟩ := Table.contains_iff.mp alive
  have modified : (state.playSound owner sound volume looping).entities.soundsOf probe = _ :=
    EntityTable.soundsOf_modify state.entities owner probe _
  rw [modified, EntityTable.soundsOf_of_get? found, show state.entities.get? owner = _ from found]
  rfl

/-- **Every edit keeps the three books in agreement**, and the log grows by what it tells the
player, as long as the counters of entities and of channels have room. -/
theorem Edit.audible {before after : State} {deeds : List Deed} (edit : Edit before deeds after)
    {log : List SoundEvent} (audible : before.Audible log) {made : Nat}
    (numbered : before.entities.Numbered made)
    (few : made + (entitiesMade deeds).length < 2 ^ 32)
    (quiet : (playedChannels (log ++ soundsHeard deeds)).length < 2 ^ 32) :
    after.Audible (log ++ soundsHeard deeds) := by
  cases edit with
  | allocate kind name template =>
    exact .unheard (audible.congr
      (EntityTable.soundsOf_allocate (numbered.fresh few) kind name template) rfl)
  | startThread started =>
    obtain ⟨_, _, rfl⟩ := startThread_eq started
    exact .unheard (audible.modify rfl (fun _ => rfl) rfl)
  | setThread thread known => exact .unheard (audible.congr (fun _ => rfl) rfl)
  | removeThread id => exact .unheard (audible.modify rfl (fun _ => rfl) rfl)
  | reshape id shape =>
    refine .unheard (audible.modify rfl (fun entity => ?_) rfl)
    obtain ⟨position, attributes, animation, same⟩ := shape entity
    rw [same]
  | relate id alive low high => exact .unheard (audible.modify rfl (fun _ => rfl) rfl)
  | bind unbound found avatar free => exact .unheard (audible.modify rfl (fun _ => rfl) rfl)
  | @grab carrier object holder held apart found free foundHeld loose =>
    have carrying : (before.modifyEntity carrier fun entity =>
        { entity with carrying := some object }).Audible log :=
      audible.modify rfl (fun _ => rfl) rfl
    exact .unheard (carrying.modify rfl (fun _ => rfl) rfl)
  | @drop carrier object holder position found carries =>
    have freed : (before.modifyEntity object fun entity =>
        { entity with carriedBy := none, position }).Audible log :=
      audible.modify rfl (fun _ => rfl) rfl
    exact .unheard (freed.modify rfl (fun _ => rfl) rfl)
  | playSound sound volume looping alive =>
    rw [soundsHeard_heard] at quiet ⊢
    rw [playedChannels_append, List.length_append] at quiet
    exact audible.play _ sound volume looping quiet
      (soundsOf_playSound sound volume looping alive) rfl
  | stopSounds owner =>
    rw [soundsHeard_heard]
    exact audible.silence owner (before.soundsOf_stopSounds owner) rfl
  | despawn despawned =>
    rw [soundsHeard_heard, soundEvents_of_despawn despawned]
    obtain ⟨gone, _, _, rfl⟩ := despawn_eq despawned
    exact audible.silence _ (before.soundsOf_despawned gone _) rfl
  | tick tick => exact .unheard (audible.congr (fun _ => rfl) audible.refresh)

/-- Wherever edits lead from the empty state, the three books agree, as long as the counters of
entities and of channels have not run over. -/
theorem Edits.audible {state : State} {deeds : List Deed} (edits : Edits State.empty deeds state)
    (few : (entitiesMade deeds).length < 2 ^ 32)
    (quiet : (playedChannels (soundsHeard deeds)).length < 2 ^ 32) :
    state.Audible (soundsHeard deeds) := by
  induction edits with
  | none => exact audible_empty
  | more edits edit inductionHypothesis =>
    rw [soundsHeard_append] at quiet ⊢
    have earlierQuiet := quiet
    rw [entitiesMade_append, List.length_append] at few
    rw [playedChannels_append, List.length_append] at earlierQuiet
    have earlierFew := Nat.lt_of_le_of_lt (Nat.le_add_right _ _) few
    exact edit.audible
      (inductionHypothesis earlierFew (Nat.lt_of_le_of_lt (Nat.le_add_right _ _) earlierQuiet))
      (edits.numbered earlierFew) few quiet

end State
end Lockstep
