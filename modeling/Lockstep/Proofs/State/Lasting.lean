import Lockstep.Proofs.Entity.Links

/-!
# What lasts of an entity

From its first moment to its last an entity has one identity, one kind and one name, and it gets a
client at most once, and only if it is an avatar (`Entity.Lasts`). An edit either makes one entity
or leaves nobody alive who was not there before (`State.Edit.entities_cases`). So what holds of a
new entity and lasts holds of every entity that edits lead to (`State.Edits.forall_entities`),
whether or not the counter of identities has run over.
-/

set_option autoImplicit false

namespace Lockstep

/-- What does not change of an entity. -/
structure Entity.Lasts (before after : Entity) : Prop where
  id : after.id = before.id
  kind : after.kind = before.kind
  name : after.name = before.name
  /-- An entity that has a client keeps it, and only an avatar gets one. -/
  client : after.client = before.client ∨ before.client = none ∧ before.kind = .avatar

namespace Entity.Lasts

theorem refl (entity : Entity) : entity.Lasts entity := ⟨rfl, rfl, rfl, .inl rfl⟩

theorem trans {first middle last : Entity} (start : first.Lasts middle)
    (rest : middle.Lasts last) : first.Lasts last := by
  refine ⟨rest.id.trans start.id, rest.kind.trans start.kind, rest.name.trans start.name, ?_⟩
  obtain kept | ⟨free, avatar⟩ := start.client
  · obtain still | ⟨free, avatar⟩ := rest.client
    · exact .inl (still.trans kept)
    · exact .inr ⟨kept.symm.trans free, start.kind.symm.trans avatar⟩
  · exact .inr ⟨free, avatar⟩

end Entity.Lasts

/-- No identity is given out, and nobody is alive who was not alive before as who they are. -/
structure EntityTable.Lasts (before after : EntityTable) : Prop where
  counter : after.nextId = before.nextId
  known : ∀ id entity, after.get? id = some entity →
    ∃ old, before.get? id = some old ∧ old.Lasts entity

namespace EntityTable.Lasts

variable {before middle after : EntityTable}

theorem refl (table : EntityTable) : table.Lasts table :=
  ⟨rfl, fun _ entity found => ⟨entity, found, .refl entity⟩⟩

theorem trans (start : before.Lasts middle) (rest : middle.Lasts after) : before.Lasts after := by
  refine ⟨rest.counter.trans start.counter, fun id entity found => ?_⟩
  obtain ⟨old, held, lasts⟩ := rest.known id entity found
  obtain ⟨oldest, known, lasted⟩ := start.known id old held
  exact ⟨oldest, known, lasted.trans lasts⟩

theorem modify {id : EntityId} {change : Entity → Entity}
    (kept : ∀ entity, before.get? id = some entity → entity.Lasts (change entity)) :
    before.Lasts (before.modify id change) := by
  refine ⟨rfl, fun probe entity found => ?_⟩
  have held : (before.modify id change).get? probe =
      if probe = id then (before.get? probe).map change else before.get? probe :=
    Table.get?_modify before.entities id probe change
  rw [held] at found
  by_cases same : probe = id
  · rw [if_pos same] at found
    obtain ⟨old, known, rfl⟩ := Option.map_eq_some_iff.mp found
    exact ⟨old, known, kept old (same ▸ known)⟩
  · rw [if_neg same] at found
    exact ⟨entity, found, .refl entity⟩

theorem erase (id : EntityId) : before.Lasts (before.erase id) := by
  refine ⟨rfl, fun probe entity found => ?_⟩
  have held : (before.erase id).get? probe = if probe = id then none else before.get? probe :=
    Table.get?_erase before.entities id probe
  rw [held] at found
  exact ⟨entity, (Option.ite_none_left_eq_some.mp found).2, .refl entity⟩

theorem cutLinks (gone : Entity) (id : EntityId) :
    before.Lasts (State.cutLinks before gone id) := by
  refine ⟨State.nextId_cutLinks before gone id, fun probe entity found => ?_⟩
  rw [get?_cutLinks] at found
  obtain ⟨old, known, rfl⟩ := Option.map_eq_some_iff.mp found
  exact ⟨old, known, rfl, rfl, rfl, .inl rfl⟩

/-- Somebody who is alive was alive before. -/
theorem contains (lasts : before.Lasts after) {id : EntityId} (alive : after.contains id = true) :
    before.contains id = true := by
  obtain ⟨entity, found⟩ := Table.contains_iff.mp alive
  obtain ⟨old, known, _⟩ := lasts.known id entity found
  exact Table.contains_of_get? known

end EntityTable.Lasts

namespace State

/-- **An edit makes one entity, or none, and then nobody comes and everybody lasts.** -/
theorem Edit.entities_cases {before after : State} {deeds : List Deed}
    (edit : Edit before deeds after) :
    (∃ kind name template,
        deeds = [.made (before.entities.allocate kind name template).1] ∧
          after.entities = (before.entities.allocate kind name template).2) ∨
      (entitiesMade deeds = [] ∧ before.entities.Lasts after.entities) := by
  cases edit with
  | allocate kind name template => exact .inl ⟨kind, name, template, rfl, rfl⟩
  | startThread started =>
    obtain ⟨_, _, rfl⟩ := startThread_eq started
    exact .inr ⟨rfl, .modify fun _ _ => ⟨rfl, rfl, rfl, .inl rfl⟩⟩
  | setThread thread known => exact .inr ⟨rfl, .refl _⟩
  | removeThread id => exact .inr ⟨rfl, .modify fun _ _ => ⟨rfl, rfl, rfl, .inl rfl⟩⟩
  | reshape id shape =>
    refine .inr ⟨rfl, .modify fun entity _ => ?_⟩
    obtain ⟨position, attributes, animation, same⟩ := shape entity
    exact same ▸ ⟨rfl, rfl, rfl, .inl rfl⟩
  | relate id alive low high => exact .inr ⟨rfl, .modify fun _ _ => ⟨rfl, rfl, rfl, .inl rfl⟩⟩
  | @bind client id entity unbound found avatar free =>
    refine .inr ⟨rfl, .modify fun same held => ⟨rfl, rfl, rfl, ?_⟩⟩
    obtain rfl := Option.some.inj (found.symm.trans held)
    exact .inr ⟨free, avatar⟩
  | @grab carrier object holder held apart found loose foundHeld free =>
    have carrying : before.entities.Lasts (before.entities.modify carrier fun entity =>
        { entity with carrying := some object }) :=
      .modify fun _ _ => ⟨rfl, rfl, rfl, .inl rfl⟩
    exact .inr ⟨rfl, carrying.trans (.modify fun _ _ => ⟨rfl, rfl, rfl, .inl rfl⟩)⟩
  | @drop carrier object holder position found carries =>
    have freed : before.entities.Lasts (before.entities.modify object fun entity =>
        { entity with carriedBy := none, position }) :=
      .modify fun _ _ => ⟨rfl, rfl, rfl, .inl rfl⟩
    exact .inr ⟨rfl, freed.trans (.modify fun _ _ => ⟨rfl, rfl, rfl, .inl rfl⟩)⟩
  | playSound sound volume looping alive =>
    exact .inr ⟨rfl, .modify fun _ _ => ⟨rfl, rfl, rfl, .inl rfl⟩⟩
  | stopSounds owner =>
    exact .inr ⟨entitiesMade_heard _, .modify fun _ _ => ⟨rfl, rfl, rfl, .inl rfl⟩⟩
  | @despawn _ id trace despawned =>
    obtain ⟨gone, _, _, rfl⟩ := despawn_eq despawned
    have stopped : before.entities.Lasts (before.stopSounds id).entities :=
      .modify fun _ _ => ⟨rfl, rfl, rfl, .inl rfl⟩
    exact .inr ⟨entitiesMade_heard _, (stopped.trans (.erase id)).trans (.cutLinks gone id)⟩
  | tick tick => exact .inr ⟨rfl, .refl _⟩

/-- Every entity that is made moves the counter of identities on, and nothing else does. -/
theorem Edits.nextId {before after : State} {deeds : List Deed} (edits : Edits before deeds after) :
    after.entities.nextId =
      before.entities.nextId + UInt32.ofNat (entitiesMade deeds).length := by
  induction edits with
  | none => exact (UInt32.add_zero _).symm
  | more _ edit inductionHypothesis =>
    rw [entitiesMade_append, List.length_append, UInt32.ofNat_add, ← UInt32.add_assoc,
      ← inductionHypothesis]
    obtain ⟨kind, name, template, rfl, allocated⟩ | ⟨nothing, lasts⟩ := edit.entities_cases
    · rw [allocated]
      rfl
    · rw [nothing, lasts.counter]
      exact (UInt32.add_zero _).symm

theorem Edit.lasts {before after : State} {deeds : List Deed} (edit : Edit before deeds after)
    (nothing : entitiesMade deeds = []) : before.entities.Lasts after.entities := by
  obtain ⟨kind, name, template, rfl, _⟩ | ⟨_, lasts⟩ := edit.entities_cases
  · exact absurd nothing (List.cons_ne_nil _ _)
  · exact lasts

theorem Edits.lasts {before after : State} {deeds : List Deed} (edits : Edits before deeds after)
    (nothing : entitiesMade deeds = []) : before.entities.Lasts after.entities := by
  induction edits with
  | none => exact .refl _
  | more _ edit inductionHypothesis =>
    rw [entitiesMade_append, List.append_eq_nil_iff] at nothing
    exact (inductionHypothesis nothing.1).trans (edit.lasts nothing.2)

theorem Changed.lasts {before after : State} {threads : Nat} {events : List SoundEvent}
    (changed : before.Changed 0 threads events after) :
    before.entities.Lasts after.entities := by
  obtain ⟨deeds, edits, _, made, _⟩ := changed
  exact edits.lasts (List.eq_nil_of_length_eq_zero (Nat.le_zero.mp made))

/-- What holds of a new entity under its identity, and lasts, holds of every entity. -/
theorem Edits.forall_entities (holds : EntityId → Entity → Prop)
    (new : ∀ id kind name template, holds id (Entity.new id kind name template))
    (lasts : ∀ id before after, before.Lasts after → holds id before → holds id after)
    {state : State} {deeds : List Deed} (edits : Edits State.empty deeds state) :
    ∀ id entity, state.entities.get? id = some entity → holds id entity := by
  refine @Edits.keep (fun state => ∀ id entity, state.entities.get? id = some entity →
    holds id entity) _ _ _ edits (fun _ _ found => nomatch found) ?_
  intro before after deeds edit each id entity found
  obtain ⟨kind, name, template, _, allocated⟩ | ⟨_, lasting⟩ := edit.entities_cases
  · rw [allocated, EntityTable.get?_allocate] at found
    by_cases here : id = ⟨before.entities.nextId + 1⟩
    · rw [if_pos here] at found
      obtain rfl := Option.some.inj found
      exact here ▸ new _ kind name template
    · rw [if_neg here] at found
      exact each id entity found
  · obtain ⟨old, known, lasted⟩ := lasting.known id entity found
    exact lasts id old entity lasted (each id old known)

/-- Every entity has the identity that it is kept under. -/
theorem Edits.identified {state : State} {deeds : List Deed}
    (edits : Edits State.empty deeds state) (id : EntityId) (entity : Entity)
    (found : state.entities.get? id = some entity) : entity.id = id := by
  refine edits.forall_entities (fun id entity => entity.id = id) (fun _ _ _ _ => rfl)
    ?_ id entity found
  intro id before after lasts same
  exact lasts.id.trans same

/-- Only avatars have clients. -/
theorem Edits.kind_of_client {state : State} {deeds : List Deed}
    (edits : Edits State.empty deeds state) (id : EntityId) (entity : Entity)
    (found : state.entities.get? id = some entity) {client : ClientId}
    (controlled : entity.client = some client) : entity.kind = .avatar := by
  refine edits.forall_entities (fun _ entity => entity.client = some client →
    entity.kind = .avatar) (fun _ _ _ _ owned => nomatch owned) ?_ id entity found controlled
  intro id before after lasts avatar controlled
  rw [lasts.kind]
  obtain kept | ⟨_, avatar⟩ := lasts.client
  · exact avatar (kept.symm.trans controlled)
  · exact avatar

end State
end Lockstep
