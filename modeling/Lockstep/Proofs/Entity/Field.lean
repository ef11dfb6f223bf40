import Lockstep.Proofs.Table.Keys
import Lockstep.State

/-!
# Fields of entities

Sounds, threads and the client of an entity are also written down elsewhere, so that proofs compare
a field of an entity with another book. `EntityTable.field` reads a field, or says what is read of
an entity that is not alive. Each operation on a table has one law that says what it does to a
field.
-/

set_option autoImplicit false

namespace Lockstep.EntityTable

variable {α : Type}

/-- A field of an entity, or what stands for the field of one that is not alive. -/
def field (table : EntityTable) (read : Entity → α) (absent : α) (id : EntityId) : α :=
  ((table.get? id).map read).getD absent

theorem field_of_get? {table : EntityTable} {id : EntityId} {entity : Entity}
    (found : table.get? id = some entity) (read : Entity → α) (absent : α) :
    table.field read absent id = read entity := by
  rw [field, found]
  rfl

theorem field_of_not_contains {table : EntityTable} {id : EntityId}
    (gone : ¬ table.contains id = true) (read : Entity → α) (absent : α) :
    table.field read absent id = absent := by
  have none : table.get? id = none := Table.get?_of_not_contains gone
  rw [field, none]
  rfl

theorem field_modify (table : EntityTable) (id probe : EntityId) (change : Entity → Entity)
    (read : Entity → α) (absent : α) :
    (table.modify id change).field read absent probe =
      if probe = id then ((table.get? id).map fun entity => read (change entity)).getD absent
      else table.field read absent probe := by
  have held : (table.modify id change).get? probe =
      if probe = id then (table.get? probe).map change else table.get? probe :=
    Table.get?_modify table.entities id probe change
  rw [field, held]
  by_cases same : probe = id
  · rw [if_pos same, if_pos same, same, Option.map_map]
    rfl
  · rw [if_neg same, if_neg same]
    rfl

/-- A change that leaves a field of its entity alone leaves that field of all alone. -/
theorem field_modify_same (table : EntityTable) (id probe : EntityId) {change : Entity → Entity}
    {read : Entity → α} (absent : α) (kept : ∀ entity, read (change entity) = read entity) :
    (table.modify id change).field read absent probe = table.field read absent probe := by
  rw [field_modify]
  by_cases same : probe = id
  · rw [if_pos same, same, field]
    exact congrArg (fun change => (Option.map change (table.get? id)).getD absent) (funext kept)
  · exact if_neg same

/-- A change that sets a field of its entity, which is alive. -/
theorem field_modify_set (table : EntityTable) {id : EntityId} (probe : EntityId)
    {change : Entity → Entity} {read : Entity → α} {absent value : α}
    (set : ∀ entity, read (change entity) = value) (alive : table.contains id = true) :
    (table.modify id change).field read absent probe =
      if probe = id then value else table.field read absent probe := by
  obtain ⟨entity, found⟩ := Table.contains_iff.mp alive
  have held : table.get? id = some entity := found
  rw [field_modify, held, Option.map_some, Option.getD_some, set]

theorem get?_allocate (table : EntityTable) (kind : EntityKind) (name : String)
    (template : EntityTemplate) (probe : EntityId) :
    (table.allocate kind name template).2.get? probe =
      if probe = ⟨table.nextId + 1⟩ then
        some (Entity.new ⟨table.nextId + 1⟩ kind name template)
      else table.get? probe :=
  Table.get?_insert table.entities _ probe _

/-- A new entity in which a field is as if it were not alive. -/
theorem field_allocate {table : EntityTable} (fresh : ¬ table.contains ⟨table.nextId + 1⟩ = true)
    (kind : EntityKind) (name : String) (template : EntityTemplate) (probe : EntityId)
    {read : Entity → α} {absent : α}
    (blank : read (Entity.new ⟨table.nextId + 1⟩ kind name template) = absent) :
    (table.allocate kind name template).2.field read absent probe =
      table.field read absent probe := by
  rw [field, get?_allocate]
  by_cases same : probe = ⟨table.nextId + 1⟩
  · rw [if_pos same, same]
    exact blank.trans (field_of_not_contains fresh read absent).symm
  · rw [if_neg same]
    rfl

theorem field_erase (table : EntityTable) (id probe : EntityId) (read : Entity → α) (absent : α) :
    (table.erase id).field read absent probe =
      if probe = id then absent else table.field read absent probe := by
  have held : (table.erase id).get? probe = _ := Table.get?_erase table.entities id probe
  rw [field, held]
  split <;> rfl

/-- Links to an entity that has gone are cut, and no other field changes. -/
theorem field_cutLinks (table : EntityTable) (gone : Entity) (id probe : EntityId)
    {read : Entity → α} (absent : α)
    (kept : ∀ (entity : Entity) carrying carriedBy relationships,
      read { entity with carrying, carriedBy, relationships } = read entity) :
    (State.cutLinks table gone id).field read absent probe = table.field read absent probe := by
  rw [State.cutLinks, field]
  dsimp only [get?]
  rw [Table.get?_mapValues, Option.map_map]
  have unrelated : (read ∘ fun entity : Entity =>
      { entity with relationships := entity.relationships.erase id }) = read :=
    funext fun entity => kept entity entity.carrying entity.carriedBy _
  rw [unrelated]
  have released (entities : EntityTable) (held : EntityId) :
      (entities.modify held fun entity => { entity with carriedBy := none }).field read absent
        probe = entities.field read absent probe :=
    field_modify_same entities held probe absent fun entity =>
      kept entity entity.carrying none entity.relationships
  have freed (entities : EntityTable) (carrier : EntityId) :
      (entities.modify carrier fun entity => { entity with carrying := none }).field read absent
        probe = entities.field read absent probe :=
    field_modify_same entities carrier probe absent fun entity =>
      kept entity none entity.carriedBy entity.relationships
  cases gone.carriedBy with
  | none =>
    cases gone.carrying with
    | none => rfl
    | some held => exact released table held
  | some carrier =>
    cases gone.carrying with
    | none => exact freed table carrier
    | some held => exact (freed _ carrier).trans (released table held)

end Lockstep.EntityTable
