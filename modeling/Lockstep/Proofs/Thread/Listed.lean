import Lockstep.Proofs.Thread.Registry

/-!
# Sound lists of threads

The list of an entity is sound when it names only threads of that entity, and only those that are in
the table (`State.ListsSound`). That the table and the lists agree takes counters that have not run
over; sound lists take nothing: every edit keeps them (`State.Edit.listsSound`). An entity that is
made under an identity that was given out before takes the place of an old one, and its list is
empty. Threads may then be left that nobody lists, but never the other way round.
-/

set_option autoImplicit false

namespace Lockstep.State

/-- Entities list only threads that belong to them, and only those that are in the table. -/
structure ListsSound (state : State) : Prop where
  owned : ∀ owner, ∀ id ∈ state.threadsOf owner, id.owner = owner
  known : ∀ owner, ∀ id ∈ state.threadsOf owner, state.threads.contains id = true

theorem listsSound_empty : State.empty.ListsSound where
  owned _ _ member := absurd member List.not_mem_nil
  known _ _ member := absurd member List.not_mem_nil

namespace ListsSound

variable {state next : State}

/-- Lists get no longer, and what they still name is still there. -/
theorem shrink (sound : state.ListsSound)
    (fewer : ∀ owner, ∀ id ∈ next.threadsOf owner, id ∈ state.threadsOf owner)
    (stays : ∀ owner, ∀ id ∈ next.threadsOf owner, state.threads.contains id = true →
      next.threads.contains id = true) : next.ListsSound where
  owned owner id member := sound.owned owner id (fewer owner id member)
  known owner id member := stays owner id member (sound.known owner id (fewer owner id member))

/-- One entity has changed, but not its threads. -/
theorem modify (sound : state.ListsSound) {id : EntityId} {change : Entity → Entity}
    (entities : next.entities = state.entities.modify id change)
    (kept : ∀ entity, (change entity).threads = entity.threads)
    (table : next.threads = state.threads) : next.ListsSound := by
  refine sound.shrink (fun owner thread member => ?_) fun _ _ _ known => table ▸ known
  rw [threadsOf, entities, EntityTable.field_modify_same state.entities id owner [] kept] at member
  exact member

theorem startThread (sound : state.ListsSound) {owner : EntityId} {behavior : UInt16}
    {caller stackObject : Option EntityId} {params : Vector Int16 4} {id : ThreadId}
    (started : state.startThread owner behavior caller stackObject params = some (id, next)) :
    next.ListsSound := by
  have lists {probe : EntityId} {thread : ThreadId} (member : thread ∈ next.threadsOf probe) :
      probe = owner ∧ thread = id ∨ thread ∈ state.threadsOf probe := by
    rw [threadsOf_startThread started] at member
    by_cases same : probe = owner
    · rw [if_pos same] at member
      obtain old | new := List.mem_append.mp member
      · exact .inr (same ▸ old)
      · exact .inl ⟨same, List.mem_singleton.mp new⟩
    · rw [if_neg same] at member
      exact .inr member
  obtain ⟨_, rfl, rfl⟩ := startThread_eq started
  constructor
  case owned =>
    intro probe thread member
    obtain ⟨rfl, rfl⟩ | old := lists member
    · rfl
    · exact sound.owned probe thread old
  case known =>
    intro probe thread member
    refine Table.contains_insert_iff.mpr ?_
    obtain ⟨_, new⟩ | old := lists member
    · exact .inl new
    · exact .inr (sound.known probe thread old)

theorem removeThread (sound : state.ListsSound) (id : ThreadId) :
    (state.removeThread id).ListsSound := by
  have lists := state.threadsOf_removeThread id
  have left (owner : EntityId) (thread : ThreadId)
      (member : thread ∈ (state.removeThread id).threadsOf owner) :
      thread ≠ id ∧ thread ∈ state.threadsOf owner := by
    rw [lists] at member
    by_cases same : owner = id.owner
    · rw [if_pos same] at member
      obtain ⟨listed, other⟩ := List.mem_filter.mp member
      exact ⟨of_decide_eq_true other, same ▸ listed⟩
    · rw [if_neg same] at member
      refine ⟨?_, member⟩
      rintro rfl
      exact same (sound.owned owner thread member).symm
  exact sound.shrink (fun owner thread member => (left owner thread member).2)
    fun owner thread member known =>
      Table.contains_erase_iff.mpr ⟨(left owner thread member).1, known⟩

theorem despawn (sound : state.ListsSound) {id : EntityId} {trace : List TraceEntry}
    (despawned : state.despawn id = some (trace, next)) : next.ListsSound := by
  have lists := threadsOf_despawn despawned
  have others (owner : EntityId) (thread : ThreadId) (member : thread ∈ next.threadsOf owner) :
      owner ≠ id ∧ thread ∈ state.threadsOf owner := by
    rw [lists] at member
    by_cases same : owner = id
    · rw [if_pos same] at member
      exact absurd member List.not_mem_nil
    · rw [if_neg same] at member
      exact ⟨same, member⟩
  obtain ⟨gone, found, _, rfl⟩ := despawn_eq despawned
  refine sound.shrink (fun owner thread member => (others owner thread member).2)
    fun owner thread member known => ?_
  obtain ⟨apart, listed⟩ := others owner thread member
  have spared : thread ∉ gone.threads := by
    intro here
    have own : state.threadsOf id = gone.threads := EntityTable.field_of_get? found _ _
    exact apart ((sound.owned owner thread listed).symm.trans (sound.owned id thread (own ▸ here)))
  rw [Table.contains, get?_eraseThreads, if_neg spared]
  exact known

end ListsSound

/-- **Every edit keeps lists sound.** -/
theorem Edit.listsSound {before after : State} {deeds : List Deed} (edit : Edit before deeds after)
    (sound : before.ListsSound) : after.ListsSound := by
  cases edit with
  | allocate kind name template =>
    refine sound.shrink (fun owner thread member => ?_) fun _ _ _ known => known
    rw [threadsOf, EntityTable.field, EntityTable.get?_allocate] at member
    split at member
    · exact absurd member List.not_mem_nil
    · exact member
  | startThread begun => exact sound.startThread begun
  | setThread id =>
    exact sound.shrink (fun _ _ member => member) fun _ thread _ old =>
      (Table.contains_modify _ id thread _).trans old
  | removeThread id => exact sound.removeThread id
  | reshape id shape =>
    refine sound.modify rfl (fun entity => ?_) rfl
    obtain ⟨position, attributes, animation, same⟩ := shape entity
    rw [same]
  | relate id alive low high => exact sound.modify rfl (fun _ => rfl) rfl
  | bind unbound found avatar free => exact sound.modify rfl (fun _ => rfl) rfl
  | @grab carrier object holder held apart found free foundHeld loose =>
    have carrying : (before.modifyEntity carrier fun entity =>
        { entity with carrying := some object }).ListsSound :=
      sound.modify rfl (fun _ => rfl) rfl
    exact carrying.modify rfl (fun _ => rfl) rfl
  | @drop carrier object holder position found carries =>
    have freed : (before.modifyEntity object fun entity =>
        { entity with carriedBy := none, position }).ListsSound :=
      sound.modify rfl (fun _ => rfl) rfl
    exact freed.modify rfl (fun _ => rfl) rfl
  | playSound sounding volume looping alive => exact sound.modify rfl (fun _ => rfl) rfl
  | stopSounds owner => exact sound.modify rfl (fun _ => rfl) rfl
  | despawn despawned => exact sound.despawn despawned
  | tick tick => exact sound.shrink (fun _ _ member => member) fun _ _ _ known => known

theorem Edits.listsSound {state : State} {deeds : List Deed}
    (edits : Edits State.empty deeds state) : state.ListsSound :=
  edits.keep listsSound_empty fun edit => edit.listsSound

end Lockstep.State
