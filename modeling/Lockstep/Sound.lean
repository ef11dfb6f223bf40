import Lockstep.Entity

/-!
# Sounds

The simulation does not play sounds itself. It opens a channel for each, keeps an index of the
channels that every entity holds, and reports what a player has to do as `SoundEvent`s.
-/

set_option autoImplicit false

namespace Lockstep

/-! ## What a player has to do -/

/-- A request to whatever plays sounds. -/
inductive SoundEvent where
  /-- Start a sound on a channel. -/
  | play (channel : ChannelId) (sound : UInt32) (volume : UInt8) (owner : EntityId)
  /-- Stop a channel. -/
  | release (channel : ChannelId) (owner : EntityId)
  deriving DecidableEq, Inhabited

/-- The channels that were started and have not been stopped, in the order of their starts. -/
def activeChannels (events : List SoundEvent) : List ChannelId :=
  events.foldl (fun active event =>
    match event with
    | .play channel .. => active ++ [channel]
    | .release channel _ => active.filter (· ≠ channel)) []

/-! ## Which entity holds which channels -/

/-- The channels of each entity, and the channel that was opened last. -/
structure SoundIndex where
  byOwner : Table EntityId (KeySet ChannelId)
  nextChannel : UInt32
  deriving DecidableEq, Inhabited

namespace SoundIndex

/-- No channels. -/
def empty : SoundIndex := ⟨Table.empty, 0⟩

/-- Open the next channel. -/
def allocate (index : SoundIndex) : ChannelId × SoundIndex :=
  let channel : ChannelId := ⟨index.nextChannel + 1⟩
  (channel, { index with nextChannel := channel.number })

/-- The set of channels of an entity. -/
def channelSet (index : SoundIndex) (owner : EntityId) : KeySet ChannelId :=
  (index.byOwner.get? owner).getD Table.empty

/-- The channels of an entity in ascending order. -/
def channels (index : SoundIndex) (owner : EntityId) : List ChannelId :=
  (index.channelSet owner).keys

/-- Whether an entity has an entry. -/
def containsOwner (index : SoundIndex) (owner : EntityId) : Bool := index.byOwner.contains owner

/-- The entities with an entry. -/
def owners (index : SoundIndex) : List EntityId := index.byOwner.keys

/-- Note a channel of an entity. -/
def insert (index : SoundIndex) (owner : EntityId) (channel : ChannelId) : SoundIndex :=
  { index with byOwner := index.byOwner.insert owner ((index.channelSet owner).insert channel ()) }

/-- Forget the channels of an entity. -/
def removeOwner (index : SoundIndex) (owner : EntityId) : SoundIndex :=
  { index with byOwner := index.byOwner.erase owner }

/-- Forget entities that are not alive, channels that their entity does not hold, and entries
without channels. -/
def refresh (index : SoundIndex) (entities : EntityTable) : SoundIndex :=
  let held (owner : EntityId) (channels : KeySet ChannelId) : KeySet ChannelId :=
    match entities.get? owner with
    | none => Table.empty
    | some entity =>
      channels.filter fun channel _ => entity.sounds.any fun sound => sound.channel = channel
  { index with
    byOwner := (index.byOwner.mapValues held).filter fun _ channels => channels.size ≠ 0 }

end SoundIndex

/-- Stop all sounds of an entity. The channels that are stopped, in ascending order, are those of
the index together with those that the entity itself holds. -/
def releaseSounds (entities : EntityTable) (index : SoundIndex) (owner : EntityId) :
    List ChannelId × EntityTable × SoundIndex :=
  let held := match entities.get? owner with
    | some entity => entity.sounds.map SoundChannel.channel
    | none => []
  let released := held.foldl (fun channels channel => channels.insert channel ())
    (index.channelSet owner)
  (released.keys, entities.modify owner fun entity => { entity with sounds := [] },
    index.removeOwner owner)

/-! ## As data -/

/-- An event as data. Events are only written. -/
def SoundEvent.write : SoundEvent → Datum
  | .play channel sound volume owner =>
    .variant "kind" "play"
      [("channel", Written.write channel), ("sound", Written.write sound),
        ("volume", Written.write volume), ("owner", Written.write owner)]
  | .release channel owner =>
    .variant "kind" "release_owner"
      [("channel", Written.write channel), ("owner", Written.write owner)]

/-- A set of channels is written as a list. -/
def writeChannels (channels : KeySet ChannelId) : Datum := Written.write channels.keys

/-- The set of channels that a list holds. -/
def readChannels (encoding : Encoding) (datum : Datum) : Option (KeySet ChannelId) :=
  (Written.read encoding datum).map fun channels : List ChannelId =>
    Table.ofList (channels.map fun channel => (channel, ()))

instance : Written (KeySet ChannelId) where
  write := writeChannels
  read := readChannels

instance : Written SoundIndex where
  write index := .record
    [("by_owner", Written.write index.byOwner), ("next_channel", Written.write index.nextChannel)]
  read encoding datum := do
    let fields ← datum.fields? encoding ["by_owner", "next_channel"]
    let byOwner ← fields.required "by_owner"
    let nextChannel ← fields.required "next_channel"
    some ⟨byOwner, nextChannel⟩

end Lockstep
