import Lockstep.Proofs.Primitive.Outcomes

/-!
# What primitives touch

A primitive touches only what its context reaches: the entity that the thread belongs to, the
caller, the stack object, and what the owner carries, as they are when the primitive begins
(`Context.Reaches`). No other entity is changed, and no other entity has sounds started or stopped
(`Primitive.dispatch_confined`). Of no entity at all are the identity, the kind, the name, the
client or the threads changed, and entities neither appear nor disappear. Removals are only asked
for, and only of the owner and of the stack object.

The reach is that of the context in which the primitive began. It stays the same while the primitive
makes several changes, so that changes can be put together (`Context.Confines.trans`) also where one
of them changes what a link points to.
-/

set_option autoImplicit false

namespace Lockstep

/-- What no primitive changes of an entity: its identity, kind, name, client and threads. -/
def Entity.fixed (entity : Entity) :
    EntityId × EntityKind × String × Option ClientId × List ThreadId :=
  (entity.id, entity.kind, entity.name, entity.client, entity.threads)

namespace Context

/-- The owner, the caller, the stack object and what the owner carries are within reach. -/
def Reaches (context : Context) (id : EntityId) : Prop :=
  id = context.owner ∨ context.frame.caller = some id ∨ context.frame.stackObject = some id ∨
    (context.entities.get? context.owner).bind Entity.carrying = some id

/-- What happens to one context on the way to another one, within the reach of a third. -/
structure Confines (reach before after : Context) : Prop where
  entities : ∀ id, ¬ reach.Reaches id → after.entities.get? id = before.entities.get? id
  sounds : ∀ id, ¬ reach.Reaches id →
    after.sounds.byOwner.get? id = before.sounds.byOwner.get? id
  /-- Entities neither come nor go. -/
  fixed : ∀ id, (after.entities.get? id).map Entity.fixed =
    (before.entities.get? id).map Entity.fixed
  nextId : after.entities.nextId = before.entities.nextId
  removals : ∃ asked, after.removals = before.removals ++ asked ∧
    ∀ id ∈ asked, id = reach.owner ∨ reach.frame.stackObject = some id

variable {reach context middle after : Context} {id : EntityId}

/-- An identity that is resolved is within reach. -/
theorem reaches_of_resolve {target : Target} (resolved : context.resolve target = some id) :
    context.Reaches id := by
  cases target with
  | me => exact .inl (alive_of_alive? resolved).1
  | caller => exact .inr (.inl (alive_of_bind resolved).1)
  | stackObject => exact .inr (.inr (.inl (alive_of_bind resolved).1))
  | carried => exact .inr (.inr (.inr (alive_of_bind resolved).1))

namespace Confines

/-- Nothing has changed but the frame, the temporary values, the random numbers and the effects. -/
theorem rest (entities : after.entities = context.entities) (sounds : after.sounds = context.sounds)
    (removals : after.removals = context.removals) : reach.Confines context after where
  entities _ _ := by rw [entities]
  sounds _ _ := by rw [sounds]
  fixed _ := by rw [entities]
  nextId := by rw [entities]
  removals := ⟨[], removals.trans (List.append_nil _).symm, by simp⟩

theorem refl (context : Context) : reach.Confines context context := rest rfl rfl rfl

theorem trans (start : reach.Confines context middle) (next : reach.Confines middle after) :
    reach.Confines context after where
  entities id away := (next.entities id away).trans (start.entities id away)
  sounds id away := (next.sounds id away).trans (start.sounds id away)
  fixed id := (next.fixed id).trans (start.fixed id)
  nextId := next.nextId.trans start.nextId
  removals := by
    obtain ⟨first, asked, allowed⟩ := start.removals
    obtain ⟨second, askedNext, allowedNext⟩ := next.removals
    refine ⟨first ++ second, ?_, fun id member => ?_⟩
    · rw [askedNext, asked, List.append_assoc]
    · exact (List.mem_append.mp member).elim (allowed id) (allowedNext id)

/-- One entity within reach is changed, and perhaps its sounds. -/
theorem change {change : Entity → Entity} (reached : reach.Reaches id)
    (same : ∀ entity, (change entity).fixed = entity.fixed)
    (entities : after.entities = context.entities.modify id change)
    (sounds : ∀ other, other ≠ id →
      after.sounds.byOwner.get? other = context.sounds.byOwner.get? other)
    (removals : after.removals = context.removals) : reach.Confines context after where
  entities other away := by
    have apart : other ≠ id := fun same => away (same ▸ reached)
    rw [entities]
    exact Table.get?_modify_of_ne _ apart _
  sounds other away := sounds other fun same => away (same ▸ reached)
  fixed other := by
    rw [entities]
    show (Table.get? (Table.modify ..) other).map Entity.fixed = _
    rw [Table.get?_modify]
    split
    · rw [Option.map_map]
      exact congrArg (fun read => (context.entities.get? other).map read) (funext same)
    · rfl
  nextId := by
    rw [entities]
    rfl
  removals := ⟨[], removals.trans (List.append_nil _).symm, by simp⟩

theorem modify {change : Entity → Entity} (reached : reach.Reaches id)
    (same : ∀ entity, (change entity).fixed = entity.fixed) :
    reach.Confines context (context.modifyEntity id change) :=
  .change reached same rfl (fun _ _ => rfl) rfl

theorem playSound (reached : reach.Reaches id) (sound : UInt32) (volume : UInt8)
    (looping : Bool) : reach.Confines context (context.playSound id sound volume looping).2 := by
  refine .change reached ?_ rfl (fun other apart => ?_) rfl
  · exact fun _ => rfl
  · exact Table.get?_insert_of_ne _ apart _

theorem stopSounds (reached : reach.Reaches id) :
    reach.Confines context (context.stopSounds id).2 := by
  refine .change reached ?_ rfl (fun other apart => ?_) rfl
  · exact fun _ => rfl
  · exact Table.get?_erase_of_ne _ apart

end Confines

theorem confines_write (nearer : ∀ id, context.Reaches id → reach.Reaches id) {reference : VarRef}
    {value : Int16} (written : context.write reference value = .ok after) :
    reach.Confines context after := by
  cases wrote_of_write written with
  | temps temps => exact .rest rfl rfl rfl
  | frame locals params chosen => exact .rest rfl rfl rfl
  | entity id place resolved =>
    exact .modify (nearer id (reaches_of_resolve resolved)) fun _ => rfl

end Context

namespace Primitive

/-- What a primitive comes to has touched only what its context reaches. -/
theorem Outcome.confined {context : Context} {action : Primitive} {result : Exit × Context}
    (outcome : Outcome context action result) : context.Confines context result.2 := by
  have near {target : Target} {id : EntityId} (resolved : context.resolve target = some id) :
      context.Reaches id := Context.reaches_of_resolve resolved
  cases outcome with
  | fails | passes | sleeps => exact .refl _
  | stores written => exact Context.confines_write (fun _ reached => reached) written
  | @draws _ _ _ random _ written =>
    have drawn : context.Confines context { context with random } := .rest rfl rfl rfl
    refine drawn.trans (Context.confines_write ?_ written)
    exact fun _ reached => reached
  | loses | chooses | notifies => exact .rest rfl rfl rfl
  | plays resolved =>
    exact (Context.Confines.playSound (near resolved) _ _ _).trans (.rest rfl rfl rfl)
  | silences resolved => exact .stopSounds (near resolved)
  | releases resolved =>
    exact (Context.Confines.stopSounds (near resolved)).trans (.rest rfl rfl rfl)
  | shows _ resolved => exact .modify (near resolved) fun _ => rfl
  | animates _ _ resolved => exact .modify (near resolved) fun _ => rfl
  | relates => exact .modify (.inl rfl) fun _ => rfl
  | @grabs object _ _ resolved =>
    have holds : context.Confines context (context.modifyEntity context.owner fun entity =>
        { entity with carrying := some object }) := .modify (.inl rfl) fun _ => rfl
    -- The object is one that was within reach before the owner picked anything up.
    refine (holds.trans (Context.Confines.modify (near resolved) ?_)).trans (.rest rfl rfl rfl)
    exact fun _ => rfl
  | @drops object me _ resolved =>
    have freed : context.Confines context (context.modifyEntity object fun entity =>
        { entity with carriedBy := none, position := me.position }) :=
      .modify (near resolved) fun _ => rfl
    refine (freed.trans (Context.Confines.modify (.inl rfl) ?_)).trans (.rest rfl rfl rfl)
    exact fun _ => rfl
  | asks allowed =>
    exact ⟨fun _ _ => rfl, fun _ _ => rfl, fun _ => rfl, rfl, _, rfl, allowed⟩

/-- **Primitives touch only what the context reaches.** Whatever kind of primitive is carried out
with whatever operand: entities other than the owner, the caller, the stack object and what the
owner carries are as before, with their entries in the index of sounds. No entity is another one
afterwards, has another client or other threads, or has come or gone. Only the owner and the stack
object can have been asked to be removed. -/
theorem dispatch_confined (kind : PrimitiveKind) (operand : Operand) (resumed : Option UInt32)
    (context : Context) :
    context.Confines context (dispatch kind operand resumed context).2 := by
  cases operand with
  | call request => exact .refl _
  | primitive action =>
    rw [dispatch]
    by_cases matching : action.kind = kind
    · exact (if_pos matching).symm ▸ (run_outcome action resumed context).confined
    · exact (if_neg matching).symm ▸ .refl _

end Primitive
end Lockstep
