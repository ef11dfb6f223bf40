import Lockstep.State

/-!
# What a tick changed

The entities before and after a tick are compared by what is seen of them. An entity that is
gone, new, or looks different is reported, in the order of identities, and no other is. A new
entity is announced and then described.
-/

set_option autoImplicit false

namespace Lockstep.EntityTable

/-- What is seen of each entity. -/
def summaries (entities : EntityTable) : Table EntityId EntitySummary :=
  Table.ofList (entities.list.map fun entity => (entity.id, entity.summary))

/-- How each avatar looks. -/
def snapshots (entities : EntityTable) : Table EntityId AvatarSnapshot :=
  Table.ofList ((entities.list.filter fun entity => entity.kind = .avatar).map fun entity =>
    (entity.id, entity.snapshot))

/-- What happened to one entity, given what was seen of it before and what is seen now. -/
def changesOf (entities : EntityTable) (id : EntityId) (before after : Option EntitySummary) :
    List EntityChange :=
  match before, after with
  | none, none => []
  | some _, none => [.despawned]
  | none, some summary =>
    match entities.get? id with
    | some entity => [.spawned entity.kind entity.name, .updated summary]
    | none => [.updated summary]
  | some old, some new => if old = new then [] else [.updated new]

/-- What happened to the entities since they looked as in `before`. -/
def deltasSince (entities : EntityTable) (before : Table EntityId EntitySummary) :
    List EntityDelta :=
  let after := entities.summaries
  let ids : KeySet EntityId := Table.ofList ((before.keys ++ after.keys).map fun id => (id, ()))
  ids.keys.flatMap fun id =>
    (entities.changesOf id (before.get? id) (after.get? id)).map fun change => ⟨id, change⟩

/-- The avatars that are new or look different than in `before`. -/
def snapshotsSince (entities : EntityTable) (before : Table EntityId AvatarSnapshot) :
    List AvatarSnapshot :=
  (entities.snapshots.entries.filter fun entry => before.get? entry.1 ≠ some entry.2).map Prod.snd

end Lockstep.EntityTable
