import Lockstep.Entity.Appearance

/-!
# Entities

An entity is an object or an avatar with a place, sixteen attributes, at most one thing that it
carries, feelings about other entities, sounds, threads, and perhaps a client that controls it.

`EntityTable` gives out identities in ascending order from one. After `2 ^ 32` of them its counter
begins anew, and a new entity then takes the place of the one that still has its identity, if there
is one.
-/

set_option autoImplicit false

namespace Lockstep

/-- A sound that an entity is making. -/
structure SoundChannel where
  channel : ChannelId
  sound : UInt32
  volume : UInt8
  looping : Bool
  owner : EntityId
  deriving DecidableEq, Inhabited

/-- An animation that an entity shows, and how far it has come. -/
structure AnimationState where
  animation : UInt16
  elapsed : UInt16
  duration : UInt16
  deriving DecidableEq, Inhabited

/-- What an entity is made from. -/
structure EntityTemplate where
  /-- The behavior that its first thread starts in. -/
  behavior : Option UInt16
  attributes : List Int16
  position : Position
  deriving DecidableEq

/-- The template with nothing in it. -/
def EntityTemplate.empty : EntityTemplate := ⟨none, [], ⟨0, 0⟩⟩

instance : Inhabited EntityTemplate := ⟨.empty⟩

/-- An entity. -/
structure Entity where
  id : EntityId
  kind : EntityKind
  name : String
  position : Position
  attributes : Vector Int16 16
  carrying : Option EntityId
  carriedBy : Option EntityId
  animation : Option AnimationState
  relationships : Table EntityId Int16
  sounds : List SoundChannel
  threads : List ThreadId
  client : Option ClientId
  deriving DecidableEq, Inhabited

namespace Entity

/-- An entity made from a template. Attributes that the template does not give are zero. -/
def new (id : EntityId) (kind : EntityKind) (name : String) (template : EntityTemplate) : Entity where
  id
  kind
  name
  position := template.position
  attributes := Vector.ofFn fun place : Fin 16 => template.attributes[place.val]?.getD 0
  carrying := none
  carriedBy := none
  animation := none
  relationships := Table.empty
  sounds := []
  threads := []
  client := none

/-- A number of things, where all large numbers look the same. -/
def clampCount (count : Nat) : UInt16 := UInt16.ofNat (min count 0xFFFF)

/-- What clients see of an entity. -/
def summary (entity : Entity) : EntitySummary where
  position := entity.position
  attributes := entity.attributes.toList
  carrying := entity.carrying
  animation := entity.animation.map AnimationState.animation
  sounds := clampCount entity.sounds.length
  threads := clampCount entity.threads.length

/-- How an avatar looks. -/
def snapshot (entity : Entity) : AvatarSnapshot where
  entity := entity.id
  client := entity.client
  name := entity.name
  position := entity.position
  carrying := entity.carrying
  animation := entity.animation.map AnimationState.animation
  sounds := entity.sounds.map SoundChannel.sound

end Entity

/-! ## Tables of entities -/

/-- The live entities, and the identity that was given out last. -/
structure EntityTable where
  entities : Table EntityId Entity
  nextId : UInt32
  deriving DecidableEq, Inhabited

namespace EntityTable

/-- No entities. -/
def empty : EntityTable := ⟨Table.empty, 0⟩

/-- The entity with an identity. -/
def get? (table : EntityTable) (id : EntityId) : Option Entity := table.entities.get? id

/-- Whether an entity is alive. -/
def contains (table : EntityTable) (id : EntityId) : Bool := table.entities.contains id

/-- Change an entity, if it is alive. -/
def modify (table : EntityTable) (id : EntityId) (change : Entity → Entity) : EntityTable :=
  { table with entities := table.entities.modify id change }

/-- Make an entity with the next identity. -/
def allocate (table : EntityTable) (kind : EntityKind) (name : String) (template : EntityTemplate) :
    EntityId × EntityTable :=
  let id : EntityId := ⟨table.nextId + 1⟩
  (id, ⟨table.entities.insert id (Entity.new id kind name template), id.number⟩)

/-- Take an entity out of the table. -/
def erase (table : EntityTable) (id : EntityId) : EntityTable :=
  { table with entities := table.entities.erase id }

/-- The live entities in the order of their keys. -/
def list (table : EntityTable) : List Entity := table.entities.values

/-- How many entities are alive. -/
def size (table : EntityTable) : Nat := table.entities.size

end EntityTable

/-! ## As data -/

instance : Written SoundChannel where
  write sound := .record
    [("channel", Written.write sound.channel), ("sound", Written.write sound.sound),
      ("volume", Written.write sound.volume), ("looping", Written.write sound.looping),
      ("owner", Written.write sound.owner)]
  read encoding datum := do
    let fields ← datum.fields? encoding ["channel", "sound", "volume", "looping", "owner"]
    let channel ← fields.required "channel"
    let sound ← fields.required "sound"
    let volume ← fields.required "volume"
    let looping ← fields.required "looping"
    let owner ← fields.required "owner"
    some ⟨channel, sound, volume, looping, owner⟩

instance : Written AnimationState where
  write state := .record
    [("animation", Written.write state.animation), ("elapsed", Written.write state.elapsed),
      ("duration", Written.write state.duration)]
  read encoding datum := do
    let fields ← datum.fields? encoding ["animation", "elapsed", "duration"]
    let animation ← fields.required "animation"
    let elapsed ← fields.required "elapsed"
    let duration ← fields.required "duration"
    some ⟨animation, elapsed, duration⟩

/-- The fields of a template. -/
def EntityTemplate.fields (template : EntityTemplate) : List (String × Datum) :=
  [("behavior", Written.write template.behavior), ("attributes", Written.write template.attributes),
    ("position", Written.write template.position)]

/-- The template among the fields found. -/
def EntityTemplate.ofFields? (fields : Fields) : Option EntityTemplate := do
  let behavior ← fields.defaulted "behavior" none
  let attributes ← fields.defaulted "attributes" []
  let position ← fields.defaulted "position" ⟨0, 0⟩
  some ⟨behavior, attributes, position⟩

instance : Written EntityTemplate where
  write template := .record template.fields
  read encoding datum := do
    let fields ← datum.fields? encoding ["behavior", "attributes", "position"]
    EntityTemplate.ofFields? fields

instance : Written ThreadId where
  write id := .record [("owner", Written.write id.owner), ("seq", Written.write id.seq)]
  read encoding datum := do
    let fields ← datum.fields? encoding ["owner", "seq"]
    let owner ← fields.required "owner"
    let seq ← fields.required "seq"
    some ⟨owner, seq⟩

instance : Written Entity where
  write entity := .record
    [("id", Written.write entity.id), ("kind", Written.write entity.kind),
      ("name", Written.write entity.name), ("position", Written.write entity.position),
      ("attributes", Written.write entity.attributes), ("carrying", Written.write entity.carrying),
      ("carried_by", Written.write entity.carriedBy), ("animation", Written.write entity.animation),
      ("relationships", Written.write entity.relationships),
      ("sounds", Written.write entity.sounds), ("threads", Written.write entity.threads),
      ("client", Written.write entity.client)]
  read encoding datum := do
    let fields ← datum.fields? encoding
      ["id", "kind", "name", "position", "attributes", "carrying", "carried_by", "animation",
        "relationships", "sounds", "threads", "client"]
    let id ← fields.required "id"
    let kind ← fields.required "kind"
    let name ← fields.required "name"
    let position ← fields.required "position"
    let attributes ← fields.required "attributes"
    let carrying ← fields.optional "carrying"
    let carriedBy ← fields.optional "carried_by"
    let animation ← fields.optional "animation"
    let relationships ← fields.required "relationships"
    let sounds ← fields.required "sounds"
    let threads ← fields.required "threads"
    let client ← fields.optional "client"
    some
      { id, kind, name, position, attributes, carrying, carriedBy, animation, relationships, sounds,
        threads, client }

instance : Written EntityTable where
  write table := .record
    [("entities", Written.write table.entities), ("next_id", Written.write table.nextId)]
  read encoding datum := do
    let fields ← datum.fields? encoding ["entities", "next_id"]
    let entities ← fields.required "entities"
    let nextId ← fields.required "next_id"
    some ⟨entities, nextId⟩

end Lockstep
