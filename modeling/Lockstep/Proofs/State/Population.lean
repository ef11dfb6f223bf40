import Lockstep.Proofs.State.Avatars
import Lockstep.Proofs.State.Lasting

/-!
# Who comes and who stays

An entity that stays keeps its identity, its name, and its client if it has one. New entities come
only where one is made (`Edits.grew`, `State.grew_spawn`). So where only one client has come to a
world, everything that is alive is among the residents of the world or is the avatar of that client
(`State.Peopled`).
-/

set_option autoImplicit false

namespace Lockstep

/-- What an entity keeps as long as it lives. -/
structure Entity.Remains (before after : Entity) : Prop where
  id : after.id = before.id
  name : after.name = before.name
  client : before.client ≠ none → after.client = before.client

namespace Entity.Remains

theorem refl (entity : Entity) : entity.Remains entity := ⟨rfl, rfl, fun _ => rfl⟩

theorem trans {first middle last : Entity} (start : first.Remains middle)
    (rest : middle.Remains last) : first.Remains last := by
  refine ⟨rest.id.trans start.id, rest.name.trans start.name, fun controlled => ?_⟩
  have same := start.client controlled
  exact (rest.client (same ▸ controlled)).trans same

end Entity.Remains

theorem Entity.Lasts.remains {before after : Entity} (lasts : before.Lasts after) :
    before.Remains after := by
  refine ⟨lasts.id, lasts.name, fun controlled => ?_⟩
  obtain kept | ⟨free, _⟩ := lasts.client
  · exact kept
  · exact absurd free controlled

namespace EntityTable

/-- Every entity was there before, or is the avatar of a client among the newcomers. -/
def Grew (before : EntityTable) (newcomers : List (ClientId × String)) (after : EntityTable) :
    Prop :=
  ∀ id entity, after.get? id = some entity →
    (∃ old, before.get? id = some old ∧ old.Remains entity) ∨
      ∃ newcomer ∈ newcomers, entity.id = id ∧ entity.name = newcomer.2 ∧
        entity.client = some newcomer.1

namespace Grew

variable {before middle after : EntityTable} {newcomers later : List (ClientId × String)}

theorem refl (table : EntityTable) : table.Grew [] table :=
  fun _ entity found => .inl ⟨entity, found, .refl entity⟩

/-- Where everybody lasts, nobody comes. -/
theorem of_lasts (lasts : before.Lasts after) : before.Grew [] after := by
  intro id entity found
  obtain ⟨old, held, lasted⟩ := lasts.known id entity found
  exact .inl ⟨old, held, lasted.remains⟩

theorem trans (start : before.Grew newcomers middle) (rest : middle.Grew later after) :
    before.Grew (newcomers ++ later) after := by
  intro id entity found
  obtain ⟨old, held, remains⟩ | ⟨newcomer, member, new⟩ := rest id entity found
  · obtain ⟨oldest, known, remained⟩ | ⟨newcomer, member, identity, name, client⟩ :=
      start id old held
    · exact .inl ⟨oldest, known, remained.trans remains⟩
    · have controlled : old.client ≠ none := client ▸ Option.some_ne_none _
      exact .inr ⟨newcomer, List.mem_append_left _ member, remains.id.trans identity,
        remains.name.trans name, (remains.client controlled).trans client⟩
  · exact .inr ⟨newcomer, List.mem_append_right _ member, new⟩

end Grew
end EntityTable

namespace State

theorem Edits.grew {before after : State} {deeds : List Deed} (edits : Edits before deeds after)
    (nothing : entitiesMade deeds = []) : before.entities.Grew [] after.entities :=
  .of_lasts (edits.lasts nothing)

theorem Changed.grew {before after : State} {threads : Nat} {events : List SoundEvent}
    (changed : before.Changed 0 threads events after) :
    before.entities.Grew [] after.entities :=
  .of_lasts changed.lasts

/-- After an entity was made, every other one was there before. -/
theorem grew_spawn (state : State) (kind : EntityKind) (name : String) (template : EntityTemplate)
    {id : EntityId} {entity : Entity}
    (found : (state.spawn kind name template).2.entities.get? id = some entity) :
    (id = (state.spawn kind name template).1 ∧ entity.id = id ∧ entity.name = name ∧
        entity.client = none) ∨
      (id ≠ (state.spawn kind name template).1 ∧
        ∃ old, state.entities.get? id = some old ∧ old.Remains entity) := by
  by_cases made : id = (state.spawn kind name template).1
  · obtain ⟨threads, new⟩ := state.get?_spawn kind name template
    rw [made, new] at found
    obtain rfl := Option.some.inj found
    exact .inl ⟨made, (state.fst_spawn kind name template).symm.trans made.symm, rfl, rfl⟩
  · obtain ⟨deeds, rest, _, nothing, _, _⟩ := state.spawn_rest kind name template
    obtain ⟨old, held, remains⟩ | ⟨_, none, _⟩ := rest.grew nothing id entity found
    · rw [EntityTable.get?_allocate, ← state.fst_spawn kind name template, if_neg made] at held
      exact .inr ⟨made, old, held, remains⟩
    · exact absurd none List.not_mem_nil

/-! ## Only one client -/

/-- Only one client has come to a world: everything that is alive is a resident or the client's
avatar. -/
structure Peopled (residents : List EntityId) (client : ClientId) (state : State) : Prop where
  /-- Each entity has the identity that it is kept under. -/
  identified : ∀ id entity, state.entities.get? id = some entity → entity.id = id
  peopled : ∀ id entity, state.entities.get? id = some entity →
    id ∈ residents ∨ entity.client = some client
  alone : ∀ other, other ≠ client → state.avatarOf? other = none

namespace Peopled

variable {residents : List EntityId} {client : ClientId} {state : State}

theorem empty : Peopled [] client State.empty :=
  ⟨fun _ _ found => (nomatch found), fun _ _ found => (nomatch found), fun _ _ => rfl⟩

/-- What is alive is a resident or the avatar of the client. -/
theorem alive (peopled : state.Peopled residents client) (known : state.ClientsKnown)
    {id : EntityId} (present : state.entities.contains id = true) :
    id ∈ residents ++ (state.avatarOf? client).toList := by
  obtain ⟨entity, found⟩ := Table.contains_iff.mp present
  obtain resident | controlled := peopled.peopled id entity found
  · exact List.mem_append_left _ resident
  · have owned : state.clientOf? id = some client := by
      rw [State.clientOf?, show state.entities.get? id = _ from found]
      exact controlled
    rw [known id client owned]
    exact List.mem_append_right _ (List.mem_singleton_self id)

/-- An entity that is made becomes a resident. -/
theorem spawn (peopled : state.Peopled residents client) (kind : EntityKind) (name : String)
    (template : EntityTemplate) :
    (state.spawn kind name template).2.Peopled
      ((state.spawn kind name template).1 :: residents) client := by
  constructor
  case identified =>
    intro id entity found
    obtain ⟨_, identity, _⟩ | ⟨_, old, held, remains⟩ := state.grew_spawn kind name template found
    · exact identity
    · exact remains.id.trans (peopled.identified id old held)
  case peopled =>
    intro id entity found
    obtain ⟨made, _⟩ | ⟨_, old, held, remains⟩ := state.grew_spawn kind name template found
    · exact .inl (List.mem_cons.mpr (.inl made))
    · obtain resident | controlled := peopled.peopled id old held
      · exact .inl (List.mem_cons_of_mem _ resident)
      · exact .inr ((remains.client (controlled ▸ Option.some_ne_none _)).trans controlled)
  case alone =>
    intro other apart
    rw [avatarOf?, state.avatars_spawn kind name template]
    exact peopled.alone other apart

end Peopled
end State
end Lockstep
