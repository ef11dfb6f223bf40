import Lockstep.Datum.Written

/-!
# What is seen of an entity

Clients do not see entities but summaries of them. An `EntityChange` says what a tick did to an
entity, an `EntityDelta` which entity it was, and an `AvatarSnapshot` how an avatar looks now.
In data, values that are absent are left out.
-/

set_option autoImplicit false

namespace Lockstep

/-! ## Kinds and positions -/

/-- An entity is an object of the world or the avatar of a client. -/
inductive EntityKind where
  | object | avatar
  deriving DecidableEq, Inhabited

instance : Enumeration EntityKind where
  all := [.object, .avatar]
  code
    | .object => 0
    | .avatar => 1
  name
    | .object => "object"
    | .avatar => "avatar"
  title
    | .object => "Object"
    | .avatar => "Avatar"

instance : Written EntityKind where
  write := Enumeration.write
  read := Enumeration.read

/-- A place in the world. -/
structure Position where
  x : Int32
  y : Int32
  deriving DecidableEq, Inhabited

/-- A position is written as the list of its two coordinates. -/
instance : Written Position where
  write position := .list [Written.write position.x, Written.write position.y]
  read encoding datum :=
    match datum.itemsUpTo? encoding 2 with
    | some [x, y] => do
      let x ← Written.read encoding x
      let y ← Written.read encoding y
      some ⟨x, y⟩
    | _ => none

/-! ## Changes -/

/-- What clients see of an entity. -/
structure EntitySummary where
  position : Position
  attributes : List Int16
  carrying : Option EntityId
  animation : Option UInt16
  sounds : UInt16
  threads : UInt16
  deriving DecidableEq, Inhabited

/-- What happened to an entity. -/
inductive EntityChange where
  /-- It is new. -/
  | spawned (kind : EntityKind) (name : String)
  /-- It looks like this now. -/
  | updated (summary : EntitySummary)
  /-- It is gone. -/
  | despawned
  deriving DecidableEq, Inhabited

/-- What happened to one entity. -/
structure EntityDelta where
  entity : EntityId
  change : EntityChange
  deriving DecidableEq, Inhabited

/-- How an avatar looks. -/
structure AvatarSnapshot where
  entity : EntityId
  client : Option ClientId
  name : String
  position : Position
  carrying : Option EntityId
  animation : Option UInt16
  sounds : List UInt32
  deriving DecidableEq, Inhabited

/-! ## As data -/

/-- The fields of a summary. -/
def EntitySummary.fields (summary : EntitySummary) : List (String × Datum) :=
  [("position", Written.write summary.position), ("attributes", Written.write summary.attributes)] ++
    Datum.optionalField "carrying" Written.write summary.carrying ++
    Datum.optionalField "animation" Written.write summary.animation ++
    [("sounds", Written.write summary.sounds), ("threads", Written.write summary.threads)]

/-- The summary found in a datum. -/
def EntitySummary.ofFields? (datum : Datum) : Option EntitySummary := do
  let fields ← datum.fields? .buffered
    ["position", "attributes", "carrying", "animation", "sounds", "threads"]
  let position ← fields.required "position"
  let attributes ← fields.required "attributes"
  let carrying ← fields.defaulted "carrying" none
  let animation ← fields.defaulted "animation" none
  let sounds ← fields.required "sounds"
  let threads ← fields.required "threads"
  some ⟨position, attributes, carrying, animation, sounds, threads⟩

instance : Written EntityChange where
  write
    | .spawned kind name =>
      .variant "change" "spawned" [("kind", Written.write kind), ("name", Written.write name)]
    | .updated summary => .variant "change" "updated" summary.fields
    | .despawned => .variant "change" "despawned" []
  read encoding datum := do
    let (label, content) ← datum.variant? encoding "change" ["spawned", "updated", "despawned"]
    match label with
    | "spawned" =>
      let fields ← content.fields? .buffered ["kind", "name"]
      let kind ← fields.required "kind"
      let name ← fields.required "name"
      some (.spawned kind name)
    | "updated" => (EntitySummary.ofFields? content).map .updated
    | _ => if content.isUnit then some .despawned else none

instance : Written EntityDelta where
  write delta := .record
    [("entity", Written.write delta.entity), ("change", Written.write delta.change)]
  read encoding datum := do
    let fields ← datum.fields? encoding ["entity", "change"]
    let entity ← fields.required "entity"
    let change ← fields.required "change"
    some ⟨entity, change⟩

instance : Written AvatarSnapshot where
  write snapshot := .record
    ([("entity", Written.write snapshot.entity)] ++
      Datum.optionalField "client" Written.write snapshot.client ++
      [("name", Written.write snapshot.name), ("position", Written.write snapshot.position)] ++
      Datum.optionalField "carrying" Written.write snapshot.carrying ++
      Datum.optionalField "animation" Written.write snapshot.animation ++
      [("sounds", Written.write snapshot.sounds)])
  read encoding datum := do
    let fields ← datum.fields? encoding
      ["entity", "client", "name", "position", "carrying", "animation", "sounds"]
    let entity ← fields.required "entity"
    let client ← fields.defaulted "client" none
    let name ← fields.required "name"
    let position ← fields.required "position"
    let carrying ← fields.defaulted "carrying" none
    let animation ← fields.defaulted "animation" none
    let sounds ← fields.required "sounds"
    some ⟨entity, client, name, position, carrying, animation, sounds⟩

end Lockstep
