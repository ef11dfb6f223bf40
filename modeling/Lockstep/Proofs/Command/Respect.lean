import Lockstep.Proofs.Avatar.Effect
import Lockstep.Proofs.Entity.Links

/-!
# Commands respect what others own

A command of one client does not untie any other client from its avatar, and hardly touches
entities other than the client's own avatar (`SequencedCommand.Respects`). A join adds an entity. A
leave makes the others forget the avatar that goes, and nothing else. To interact is to add one
thread to the target, which has to be open to the client (`State.OpenTo`). The other actions leave
all of them as they are.

Whether a command is allowed was looked at when it was submitted, but other commands may have come
between. So nothing is supposed about the command here, only that the state is one where avatars
are alive and links fit together.
-/

set_option autoImplicit false

namespace Lockstep

/-- An entity that has nothing to do any more with another one that has gone. -/
def Entity.forget (gone : EntityId) (entity : Entity) : Entity :=
  { entity with
    carrying := if entity.carrying = some gone then none else entity.carrying
    carriedBy := if entity.carriedBy = some gone then none else entity.carriedBy
    relationships := entity.relationships.erase gone }

/-- A client may start behaviors on an entity: it is alive, it is not the avatar of another client,
and nobody carries it but the client's own avatar. -/
structure State.OpenTo (state : State) (client : ClientId) (id : EntityId) (entity : Entity) :
    Prop where
  alive : state.entities.get? id = some entity
  owner : ∀ other, entity.client = some other → other = client
  unbound : ∀ other, state.avatarOf? other = some id → other = client
  carrier : ∀ carrier, entity.carriedBy = some carrier → state.avatarOf? client = some carrier

/-- What becomes of an entity that is not the avatar of a client when that client does something. -/
def CommandAction.Spares (client : ClientId) (before after : State) (id : EntityId) :
    CommandAction → Prop
  | .join name =>
    after.entities.get? id = before.entities.get? id ∨
      before.avatarOf? client = none ∧ before.entities.get? id = none ∧
        after.avatarOf? client = some id ∧ ∃ avatar, after.entities.get? id = some avatar ∧
          avatar.kind = .avatar ∧ avatar.name = name ∧ avatar.client = some client
  | .leave =>
    after.entities.get? id =
      match before.avatarOf? client with
      | none => before.entities.get? id
      | some avatar => (before.entities.get? id).map (Entity.forget avatar)
  | .interact target _ _ =>
    after.entities.get? id = before.entities.get? id ∨
      id = target ∧ ∃ entity, before.OpenTo client id entity ∧ after.entities.get? id =
        some { entity with threads := entity.threads ++ [⟨id, before.nextThreadSeq + 1⟩] }
  | .move _ => after.entities.get? id = before.entities.get? id
  | .chat _ => after.entities.get? id = before.entities.get? id

/-- A command leaves the avatars of other clients tied to them, and spares all entities other than
the avatar of its own client. -/
structure SequencedCommand.Respects (command : SequencedCommand) (before after : State) : Prop where
  bindings : ∀ other, other ≠ command.client → after.avatarOf? other = before.avatarOf? other
  entities : ∀ id, before.avatarOf? command.client ≠ some id →
    command.action.Spares command.client before after id

/-! ## Entities that go -/

namespace State

variable {state next : State} {id probe : EntityId} {client : ClientId}

/-- When an entity goes, the others forget it, and nothing else happens to them. -/
theorem get?_despawn {trace : List TraceEntry} (linked : state.entities.Linked)
    (despawned : state.despawn id = some (trace, next)) (apart : probe ≠ id) :
    next.entities.get? probe = (state.entities.get? probe).map (Entity.forget id) := by
  obtain ⟨gone, found, _, rfl⟩ := despawn_eq despawned
  have left : ((state.stopSounds id).entities.erase id).get? probe = state.entities.get? probe :=
    (Table.get?_erase_of_ne _ apart).trans (Table.get?_modify_of_ne _ apart _)
  dsimp only
  rw [EntityTable.get?_cutLinks, left]
  cases held : state.entities.get? probe with
  | none => rfl
  | some entity =>
    -- The links of the entity that goes name those whose links name it.
    have carrier : gone.carriedBy = some probe ↔ entity.carrying = some id := by
      have paired := linked.paired probe id
      rw [EntityTable.burdenOf, EntityTable.field_of_get? held, EntityTable.carrierOf,
        EntityTable.field_of_get? found] at paired
      exact paired.symm
    have burden : gone.carrying = some probe ↔ entity.carriedBy = some id := by
      have paired := linked.paired id probe
      rw [EntityTable.burdenOf, EntityTable.field_of_get? found, EntityTable.carrierOf,
        EntityTable.field_of_get? held] at paired
      exact paired
    simp only [Option.map_some, Entity.forget, carrier, burden]

/-- Where a client may interact, the target is open to it. -/
theorem openTo_of_mayInteract (alive : state.AvatarsAlive)
    (may : state.mayInteract client id = true) : ∃ entity, state.OpenTo client id entity := by
  obtain ⟨entity, found : state.entities.get? id = some entity⟩ :=
    Table.contains_iff.mp (contains_of_mayInteract may)
  rw [mayInteract, found] at may
  dsimp only at may
  rw [Bool.and_eq_true, Option.all_eq_true, Option.all_eq_true] at may
  obtain ⟨owned, carried⟩ := may
  have owner (other : ClientId) (controls : entity.client = some other) : other = client :=
    of_decide_eq_true (owned other controls)
  refine ⟨entity, found, owner, fun other bound => ?_, fun carrier held => ?_⟩
  · have controls := alive other id bound
    rw [clientOf?, found] at controls
    exact owner other controls
  · exact of_decide_eq_true (carried carrier held)

end State

/-! ## Commands -/

namespace Underway

variable {library : Library} {underway : Underway} {client : ClientId} {id : EntityId}

/-- An action of a client spares all entities other than its avatar, where avatars are alive, links
fit together and the next identity is new. -/
theorem Applied.spares {settings : Settings} {action : CommandAction} {after : Underway}
    (applied : Applied library settings client underway action after)
    (alive : underway.state.AvatarsAlive) (linked : underway.state.entities.Linked)
    (fresh : ¬ underway.state.entities.contains ⟨underway.state.entities.nextId + 1⟩ = true)
    (apart : underway.state.avatarOf? client ≠ some id) :
    action.Spares client underway.state after.state id := by
  cases applied with
  | stays name bound => exact .inl rfl
  | @joins name new made vacant spawned =>
    obtain ⟨threads, found⟩ := underway.state.get?_spawn .avatar name settings.avatar
    have first := underway.state.fst_spawn .avatar name settings.avatar
    have others := @State.get?_spawn_of_ne underway.state .avatar name settings.avatar id
    rw [spawned] at found first others
    by_cases here : id = new
    · subst here
      obtain rfl := first
      exact .inr ⟨vacant, Table.get?_of_not_contains fresh, Table.get?_insert_self .., _,
        (Table.get?_modify_self ..).trans (congrArg (Option.map _) found), rfl, rfl, rfl⟩
    · exact .inl ((Table.get?_modify_of_ne _ here _).trans (others here))
  | idles vacant other =>
    cases action with
    | join name => exact absurd rfl (other name)
    | leave =>
      rw [CommandAction.Spares, vacant]
    | interact target behavior args => exact .inl rfl
    | move position => rfl
    | chat text => rfl
  | leaves bound gone =>
    rw [bound] at apart
    rw [CommandAction.Spares, bound]
    exact State.get?_despawn linked gone fun same => apart (congrArg some same.symm)
  | departs bound gone => exact absurd gone (alive.despawn_ne_none bound)
  | refuses target behavior args bound => exact .inl rfl
  | @interacts avatar target behavior args thread next bound known may started =>
    obtain ⟨_, rfl, rfl⟩ := State.startThread_eq started
    by_cases here : id = target
    · obtain ⟨entity, openTo⟩ := State.openTo_of_mayInteract alive may
      subst here
      refine .inr ⟨rfl, entity, openTo, (Table.get?_modify_self ..).trans ?_⟩
      exact congrArg (Option.map _) openTo.alive
    · exact .inl (Table.get?_modify_of_ne _ here _)
  | moves position bound =>
    rw [bound] at apart
    exact Table.get?_modify_of_ne _ (fun same => apart (congrArg some same.symm)) _
  | chats text => rfl

/-- **A command respects what other clients own**, where avatars are alive, links fit together and
the next identity is new. -/
theorem applyCommand_respects (alive : underway.state.AvatarsAlive)
    (linked : underway.state.entities.Linked)
    (fresh : ¬ underway.state.entities.contains ⟨underway.state.entities.nextId + 1⟩ = true)
    (settings : Settings) (command : SequencedCommand) :
    command.Respects underway.state (underway.applyCommand library settings command).state := by
  have applied := applyCommand_applied library settings underway command
  exact ⟨fun _ apart => applied.avatarOf?_of_ne alive apart,
    fun _ apart => applied.spares alive linked fresh apart⟩

end Underway
end Lockstep
