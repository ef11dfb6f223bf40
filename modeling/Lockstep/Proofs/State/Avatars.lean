import Lockstep.Proofs.Entity.Field
import Lockstep.Proofs.State.Numbered

/-!
# Clients and their avatars

A client that has joined and its avatar know each other: what an entity says of its client is in
the table of avatars (`State.ClientsKnown`), and what that table says is what the entity says
(`State.AvatarsAlive`). Every edit keeps both, the second one only as long as no identity is given
out twice. A client gets an avatar in no other edit than the one that says so among its deeds
(`State.Edits.avatars_shrink`).
-/

set_option autoImplicit false

namespace Lockstep.State

theorem clientOf?_eq (state : State) (id : EntityId) :
    state.clientOf? id = state.entities.field Entity.client none id := by
  rw [clientOf?, EntityTable.field]
  cases state.entities.get? id <;> rfl

theorem avatarOf?_bind {state : State} {client probe : ClientId} {id : EntityId} :
    ({ state.modifyEntity id (fun entity => { entity with client := some client }) with
        avatars := state.avatars.insert client id } : State).avatarOf? probe =
      if probe = client then some id else state.avatarOf? probe :=
  Table.get?_insert state.avatars client probe id

theorem clientOf?_bind {state : State} {client : ClientId} {id probe : EntityId} {entity : Entity}
    (found : state.entities.get? id = some entity) :
    ({ state.modifyEntity id (fun entity => { entity with client := some client }) with
        avatars := state.avatars.insert client id } : State).clientOf? probe =
      if probe = id then some client else state.clientOf? probe := by
  rw [clientOf?_eq, clientOf?_eq]
  refine (EntityTable.field_modify state.entities id probe _ _ _).trans ?_
  rw [found]
  rfl

/-- When an entity goes, its client has no avatar any more. -/
theorem avatarOf?_despawn {state next : State} {id : EntityId} {trace : List TraceEntry}
    (despawned : state.despawn id = some (trace, next)) (client : ClientId) :
    next.avatarOf? client =
      if state.clientOf? id = some client then none else state.avatarOf? client := by
  obtain ⟨gone, found, _, rfl⟩ := despawn_eq despawned
  rw [clientOf?, found, Option.bind_some, avatarOf?]
  cases gone.client with
  | none => rfl
  | some owner =>
    refine (Table.get?_erase state.avatars owner client).trans ?_
    by_cases same : client = owner
    · rw [if_pos same, if_pos (congrArg some same.symm)]
    · rw [if_neg same, if_neg fun equal => same (Option.some.inj equal).symm]
      rfl

theorem clientOf?_despawn {state next : State} {id : EntityId} {trace : List TraceEntry}
    (despawned : state.despawn id = some (trace, next)) (probe : EntityId) :
    next.clientOf? probe = if probe = id then none else state.clientOf? probe := by
  obtain ⟨gone, _, _, rfl⟩ := despawn_eq despawned
  rw [clientOf?_eq, clientOf?_eq]
  refine (EntityTable.field_cutLinks _ gone id probe none fun _ _ _ _ => rfl).trans ?_
  rw [EntityTable.field_erase]
  split
  · rfl
  · have kept : ∀ entity : Entity, { entity with sounds := [] }.client = entity.client :=
      fun _ => rfl
    exact EntityTable.field_modify_same state.entities id probe none kept

/-- What most edits do to avatars: nothing. -/
theorem clientOf?_modify {state next : State} {id : EntityId} {change : Entity → Entity}
    (entities : next.entities = state.entities.modify id change)
    (kept : ∀ entity, (change entity).client = entity.client) (probe : EntityId) :
    next.clientOf? probe = state.clientOf? probe := by
  rw [clientOf?_eq, clientOf?_eq, entities]
  exact EntityTable.field_modify_same state.entities id probe none kept

theorem clientOf?_modifyEntity {state : State} {id : EntityId} {change : Entity → Entity}
    (kept : ∀ entity, (change entity).client = entity.client) (probe : EntityId) :
    (state.modifyEntity id change).clientOf? probe = state.clientOf? probe :=
  clientOf?_modify rfl kept probe

/-! ## What each edit does -/

/-- What an edit does to the avatars of clients and to the clients of entities. -/
inductive Rebinds (before : State) (deeds : List Deed) (after : State) : Prop where
  /-- An entity is made, which has no client. -/
  | made (kind : EntityKind) (name : String) (template : EntityTemplate)
      (counted : (entitiesMade deeds).length = 1)
      (entities : after.entities = (before.entities.allocate kind name template).2)
      (avatars : after.avatars = before.avatars)
  | same (clients : ∀ id, after.clientOf? id = before.clientOf? id)
      (avatars : after.avatars = before.avatars)
  /-- A client gets an avatar. -/
  | bound (client : ClientId) (id : EntityId) (named : client ∈ clientsBound deeds)
      (unbound : before.avatarOf? client = none) (free : before.clientOf? id = none)
      (clients : ∀ probe,
        after.clientOf? probe = if probe = id then some client else before.clientOf? probe)
      (avatars : ∀ probe,
        after.avatarOf? probe = if probe = client then some id else before.avatarOf? probe)
  /-- An entity goes. -/
  | gone (id : EntityId)
      (clients : ∀ probe,
        after.clientOf? probe = if probe = id then none else before.clientOf? probe)
      (avatars : ∀ client, after.avatarOf? client =
        if before.clientOf? id = some client then none else before.avatarOf? client)

theorem Edit.rebinds {before after : State} {deeds : List Deed} (edit : Edit before deeds after) :
    Rebinds before deeds after := by
  cases edit with
  | allocate kind name template => exact .made kind name template rfl rfl rfl
  | startThread started =>
    obtain ⟨_, _, rfl⟩ := startThread_eq started
    exact .same (clientOf?_modify rfl fun _ => rfl) rfl
  | setThread thread known => exact .same (fun _ => rfl) rfl
  | removeThread id => exact .same (clientOf?_modify rfl fun _ => rfl) rfl
  | reshape id shape =>
    refine .same (clientOf?_modify rfl fun entity => ?_) rfl
    obtain ⟨position, attributes, animation, same⟩ := shape entity
    rw [same]
  | relate id alive low high => exact .same (clientOf?_modify rfl fun _ => rfl) rfl
  | @bind client id entity unbound found avatar free =>
    refine .bound client id List.mem_cons_self unbound ?_ (fun _ => clientOf?_bind found)
      (fun _ => avatarOf?_bind)
    rw [clientOf?, found, Option.bind_some, free]
  | @grab carrier object holder held apart found loose foundHeld free =>
    refine .same (fun probe => ?_) rfl
    rw [clientOf?_modifyEntity, clientOf?_modifyEntity]
    · exact fun _ => rfl
    · exact fun _ => rfl
  | @drop carrier object holder position found carries =>
    refine .same (fun probe => ?_) rfl
    rw [clientOf?_modifyEntity, clientOf?_modifyEntity]
    · exact fun _ => rfl
    · exact fun _ => rfl
  | playSound sound volume looping alive =>
    exact .same (clientOf?_modify rfl fun _ => rfl) rfl
  | stopSounds owner => exact .same (clientOf?_modify rfl fun _ => rfl) rfl
  | despawn despawned =>
    exact .gone _ (clientOf?_despawn despawned) (avatarOf?_despawn despawned)
  | tick tick => exact .same (fun _ => rfl) rfl

/-- A client that gets an avatar is named among the deeds. -/
theorem Edit.avatars_shrink {before after : State} {deeds : List Deed}
    (edit : Edit before deeds after) {client : ClientId} (unnamed : client ∉ clientsBound deeds)
    {id : EntityId} (bound : after.avatarOf? client = some id) :
    before.avatarOf? client = some id := by
  cases edit.rebinds with
  | made kind name template counted entities avatars => rwa [avatarOf?, avatars] at bound
  | same clients avatars => rwa [avatarOf?, avatars] at bound
  | bound other avatar named unbound free clients avatars =>
    rw [avatars, if_neg] at bound
    · exact bound
    · exact fun same => unnamed (same ▸ named)
  | gone entity clients avatars =>
    rw [avatars] at bound
    exact (Option.ite_none_left_eq_some.mp bound).2

theorem Edits.avatars_shrink {before after : State} {deeds : List Deed}
    (edits : Edits before deeds after) {client : ClientId}
    (unnamed : client ∉ clientsBound deeds) {id : EntityId}
    (bound : after.avatarOf? client = some id) : before.avatarOf? client = some id := by
  induction edits with
  | none => exact bound
  | more _ edit inductionHypothesis =>
    rw [clientsBound_append, List.mem_append, not_or] at unnamed
    exact inductionHypothesis unnamed.1 (edit.avatars_shrink unnamed.2 bound)

/-! ## What every edit keeps -/

/-- The client of an entity has that entity for its avatar. -/
def ClientsKnown (state : State) : Prop :=
  ∀ id client, state.clientOf? id = some client → state.avatarOf? client = some id

/-- The avatar of a client is alive and has that client. -/
def AvatarsAlive (state : State) : Prop :=
  ∀ client id, state.avatarOf? client = some id → state.clientOf? id = some client

/-- The avatar of a client is alive. -/
theorem AvatarsAlive.found {state : State} (alive : state.AvatarsAlive) {client : ClientId}
    {id : EntityId} (bound : state.avatarOf? client = some id) :
    ∃ avatar, state.entities.get? id = some avatar := by
  obtain ⟨avatar, found, _⟩ := Option.bind_eq_some_iff.mp (alive client id bound)
  exact ⟨avatar, found⟩

theorem AvatarsAlive.despawn_ne_none {state : State} (alive : state.AvatarsAlive)
    {client : ClientId} {id : EntityId} (bound : state.avatarOf? client = some id) :
    state.despawn id ≠ none := by
  obtain ⟨avatar, found⟩ := alive.found bound
  intro gone
  exact absurd (found.symm.trans (Option.map_eq_none_iff.mp gone)) (Option.some_ne_none avatar)

theorem Edit.clientsKnown {before after : State} {deeds : List Deed}
    (edit : Edit before deeds after) (known : before.ClientsKnown) : after.ClientsKnown := by
  intro id client owned
  cases edit.rebinds with
  | made kind name template counted entities avatars =>
    -- A new entity has no client, whichever entity had its identity before.
    rw [clientOf?, entities, EntityTable.get?_allocate] at owned
    rw [avatarOf?, avatars]
    split at owned
    · exact absurd owned (Option.some_ne_none client).symm
    · exact known id client owned
  | same clients avatars =>
    rw [avatarOf?, avatars]
    exact known id client (clients id ▸ owned)
  | bound other avatar named unbound free clients avatars =>
    rw [clients] at owned
    rw [avatars]
    by_cases here : id = avatar
    · rw [if_pos here] at owned
      rw [if_pos (Option.some.inj owned).symm, here]
    · rw [if_neg here] at owned
      have bound := known id client owned
      rw [if_neg, bound]
      rintro rfl
      exact absurd (unbound.symm.trans bound) (Option.some_ne_none id).symm
  | gone entity clients avatars =>
    rw [clients] at owned
    rw [avatars]
    obtain ⟨apart, still⟩ := Option.ite_none_left_eq_some.mp owned
    have bound := known id client still
    rw [if_neg, bound]
    intro same
    exact apart (Option.some.inj (bound.symm.trans (known entity client same)))

theorem Edits.clientsKnown {state : State} {deeds : List Deed}
    (edits : Edits State.empty deeds state) : state.ClientsKnown :=
  edits.keep (fun _ _ owned => absurd owned (Option.some_ne_none _).symm) Edit.clientsKnown

theorem Edit.avatarsAlive {before after : State} {deeds : List Deed}
    (edit : Edit before deeds after) (alive : before.AvatarsAlive) {made : Nat}
    (numbered : before.entities.Numbered made)
    (few : made + (entitiesMade deeds).length < 2 ^ 32) : after.AvatarsAlive := by
  intro client id bound
  cases edit.rebinds with
  | made kind name template counted entities avatars =>
    rw [counted] at few
    rw [avatarOf?, avatars] at bound
    have blank : (Entity.new ⟨before.entities.nextId + 1⟩ kind name template).client = none := rfl
    have kept := EntityTable.field_allocate (numbered.fresh few) kind name template id blank
    rw [clientOf?_eq, entities, kept, ← clientOf?_eq]
    exact alive client id bound
  | same clients avatars =>
    rw [avatarOf?, avatars] at bound
    rw [clients]
    exact alive client id bound
  | bound other avatar named unbound free clients avatars =>
    rw [avatars] at bound
    rw [clients]
    by_cases same : client = other
    · rw [if_pos same] at bound
      rw [if_pos (Option.some.inj bound).symm, same]
    · rw [if_neg same] at bound
      have owned := alive client id bound
      rw [if_neg, owned]
      rintro rfl
      exact absurd (free.symm.trans owned) (Option.some_ne_none client).symm
  | gone entity clients avatars =>
    rw [avatars] at bound
    rw [clients]
    obtain ⟨apart, still⟩ := Option.ite_none_left_eq_some.mp bound
    have owned := alive client id still
    rw [if_neg, owned]
    rintro rfl
    exact apart owned

/-- The avatar of a client is alive and has that client, unless identities were given out twice. -/
theorem Edits.avatarsAlive {state : State} {deeds : List Deed}
    (edits : Edits State.empty deeds state) (few : (entitiesMade deeds).length < 2 ^ 32) :
    state.AvatarsAlive := by
  induction edits with
  | none => exact fun _ id bound => absurd bound (Option.some_ne_none id).symm
  | more edits edit inductionHypothesis =>
    rw [entitiesMade_append, List.length_append] at few
    have fewBefore := Nat.lt_of_le_of_lt (Nat.le_add_right _ _) few
    exact edit.avatarsAlive (inductionHypothesis fewBefore) (edits.numbered fewBefore) few

theorem Reached.avatarsAlive {state : State} {made : Nat} (reached : state.Reached made)
    (few : made < 2 ^ 32) : state.AvatarsAlive := by
  obtain ⟨deeds, edits, bound⟩ := reached
  exact edits.avatarsAlive (Nat.lt_of_le_of_lt bound few)

end Lockstep.State
