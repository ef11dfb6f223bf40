import Mathlib.Algebra.GroupWithZero.Nat
import Lockstep.Proofs.State.Edit
import Lockstep.Proofs.Table.Keys

/-!
# Identities are given out once

The counter of a table of entities has counted the entities that were made, and no entity that is
alive has a greater number (`State.Edits.numbered`). So the next identity is new, as long as there
are fewer than `2 ^ 32` entities made.
-/

set_option autoImplicit false

namespace Lockstep

/-! ## Who is alive -/

namespace EntityTable

theorem contains_modify (table : EntityTable) (id probe : EntityId) (change : Entity → Entity) :
    (table.modify id change).contains probe = table.contains probe :=
  Table.contains_modify table.entities id probe change

theorem contains_allocate_iff {table : EntityTable} {kind : EntityKind} {name : String}
    {template : EntityTemplate} {probe : EntityId} :
    (table.allocate kind name template).2.contains probe = true ↔
      probe = (table.allocate kind name template).1 ∨ table.contains probe = true :=
  Table.contains_insert_iff

theorem contains_erase_iff {table : EntityTable} {id probe : EntityId} :
    (table.erase id).contains probe = true ↔ probe ≠ id ∧ table.contains probe = true :=
  Table.contains_erase_iff

end EntityTable

namespace State

theorem contains_cutLinks (table : EntityTable) (gone : Entity) (id probe : EntityId) :
    (cutLinks table gone id).contains probe = table.contains probe := by
  refine (Table.contains_mapValues _ _ probe).trans ?_
  cases gone.carriedBy with
  | none =>
    cases gone.carrying with
    | none => rfl
    | some held => exact EntityTable.contains_modify table held probe _
  | some carrier =>
    refine (EntityTable.contains_modify _ carrier probe _).trans ?_
    cases gone.carrying with
    | none => rfl
    | some held => exact EntityTable.contains_modify table held probe _

theorem nextId_cutLinks (table : EntityTable) (gone : Entity) (id : EntityId) :
    (cutLinks table gone id).nextId = table.nextId := by
  rw [cutLinks]
  cases gone.carrying <;> cases gone.carriedBy <;> rfl

/-- What is left when an entity has gone. -/
theorem despawn_eq {state next : State} {id : EntityId} {trace : List TraceEntry}
    (despawned : state.despawn id = some (trace, next)) :
    ∃ gone, state.entities.get? id = some gone ∧
      trace = ((state.stopped id).map fun channel => .sound (.release channel id)) ++
        [.note .debug ("despawned " ++ id.text ++ " (" ++ gone.name ++ ")")] ∧
      next =
        { state with
          entities := cutLinks ((state.stopSounds id).entities.erase id) gone id
          threads := eraseThreads state.threads gone.threads
          sounds := state.sounds.removeOwner id
          avatars := match gone.client with
            | some client => state.avatars.erase client
            | none => state.avatars } := by
  obtain ⟨gone, found, same⟩ := Option.map_eq_some_iff.mp despawned
  obtain ⟨sameTrace, sameNext⟩ := Prod.mk.inj same
  exact ⟨gone, found, sameTrace.symm, sameNext.symm⟩

end State

/-! ## Numbers -/

/-- The counter has counted the entities that were made, and those that are alive have numbers up
to it. -/
structure EntityTable.Numbered (table : EntityTable) (made : Nat) : Prop where
  count : table.nextId.toNat = made
  alive : ∀ id, table.contains id = true → id.number ≤ table.nextId

namespace EntityTable.Numbered

variable {table next : EntityTable} {made : Nat}

/-- Nothing was made, and nothing came to life. -/
theorem shrink (numbered : table.Numbered made) (count : next.nextId = table.nextId)
    (alive : ∀ id, next.contains id = true → table.contains id = true) : next.Numbered made := by
  refine ⟨count ▸ numbered.count, fun id present => ?_⟩
  rw [count]
  exact numbered.alive id (alive id present)

theorem modify (numbered : table.Numbered made) (id : EntityId) (change : Entity → Entity) :
    (table.modify id change).Numbered made :=
  numbered.shrink rfl fun probe present => contains_modify table id probe change ▸ present

theorem allocate (numbered : table.Numbered made) (few : made + 1 < 2 ^ 32) (kind : EntityKind)
    (name : String) (template : EntityTemplate) :
    (table.allocate kind name template).2.Numbered (made + 1) := by
  have next : (table.nextId + 1).toNat = made + 1 := by
    rw [UInt32.toNat_add, numbered.count]
    exact Nat.mod_eq_of_lt few
  refine ⟨next, fun id present => ?_⟩
  obtain rfl | old := contains_allocate_iff.mp present
  · exact UInt32.le_refl _
  · have bound := UInt32.le_iff_toNat_le.mp (numbered.alive id old)
    rw [numbered.count] at bound
    exact UInt32.le_iff_toNat_le.mpr (Nat.le_trans bound (next ▸ Nat.le_succ made))

/-- The next identity is one that nothing alive has. -/
theorem fresh (numbered : table.Numbered made) (few : made + 1 < 2 ^ 32) :
    ¬ table.contains ⟨table.nextId + 1⟩ = true := by
  intro present
  have bound := UInt32.le_iff_toNat_le.mp (numbered.alive _ present)
  rw [UInt32.toNat_add, numbered.count] at bound
  have small : (made + 1) % 2 ^ 32 = made + 1 := Nat.mod_eq_of_lt few
  rw [show (1 : UInt32).toNat = 1 from rfl, small] at bound
  exact Nat.not_succ_le_self made bound

end EntityTable.Numbered

/-! ## Edits -/

namespace State

theorem Edit.numbered {before after : State} {deeds : List Deed} (edit : Edit before deeds after)
    {made : Nat} (numbered : before.entities.Numbered made)
    (few : made + (entitiesMade deeds).length < 2 ^ 32) :
    after.entities.Numbered (made + (entitiesMade deeds).length) := by
  cases edit with
  | allocate kind name template => exact numbered.allocate few kind name template
  | startThread started =>
    obtain ⟨_, _, rfl⟩ := startThread_eq started
    exact numbered.modify _ _
  | setThread thread known => exact numbered
  | removeThread id => exact numbered.modify _ _
  | reshape id shape => exact numbered.modify _ _
  | relate id alive low high => exact numbered.modify _ _
  | bind unbound found avatar free => exact numbered.modify _ _
  | grab apart holder free held loose => exact (numbered.modify _ _).modify _ _
  | drop position holder carries => exact (numbered.modify _ _).modify _ _
  | playSound sound volume looping alive => exact numbered.modify _ _
  | stopSounds owner =>
    rw [entitiesMade_heard]
    exact numbered.modify _ _
  | despawn despawned =>
    rw [entitiesMade_heard]
    obtain ⟨gone, _, _, rfl⟩ := despawn_eq despawned
    refine numbered.shrink (nextId_cutLinks _ _ _) fun probe present => ?_
    rw [contains_cutLinks] at present
    have kept := (EntityTable.contains_erase_iff.mp present).2
    exact EntityTable.contains_modify before.entities _ probe _ ▸ kept
  | tick tick => exact numbered

/-- **The counter counts the entities that are made**, and what is alive has a number up to it. -/
theorem Edits.numbered {state : State} {deeds : List Deed} (edits : Edits State.empty deeds state)
    (few : (entitiesMade deeds).length < 2 ^ 32) :
    state.entities.Numbered (entitiesMade deeds).length := by
  induction edits with
  | none => exact ⟨rfl, fun id present => absurd present Bool.false_ne_true⟩
  | more _ edit inductionHypothesis =>
    rw [entitiesMade_append, List.length_append] at few ⊢
    exact edit.numbered (inductionHypothesis (Nat.lt_of_le_of_lt (Nat.le_add_right _ _) few)) few

/-- Only edits lead to a state, and they make no more than so many entities. -/
def Reached (made : Nat) (state : State) : Prop :=
  ∃ deeds, Edits State.empty deeds state ∧ (entitiesMade deeds).length ≤ made

theorem Changed.reached {state : State} {entities threads : Nat} {events : List SoundEvent}
    (changed : State.empty.Changed entities threads events state) : state.Reached entities :=
  changed.edits

namespace Reached

variable {before after : State} {made : Nat}

theorem changed (reached : before.Reached made) {entities threads : Nat}
    {events : List SoundEvent} (changed : before.Changed entities threads events after) :
    after.Reached (made + entities) := by
  obtain ⟨deeds, edits, few⟩ := reached
  obtain ⟨later, rest, more⟩ := changed.edits
  refine ⟨deeds ++ later, edits.trans rest, ?_⟩
  rw [entitiesMade_append, List.length_append]
  exact Nat.add_le_add few more

/-- The next identity is one that nothing alive has. -/
theorem fresh (reached : before.Reached made) (few : made + 1 < 2 ^ 32) :
    ¬ before.entities.contains ⟨before.entities.nextId + 1⟩ = true := by
  obtain ⟨deeds, edits, bound⟩ := reached
  have room := Nat.lt_of_le_of_lt (Nat.succ_le_succ bound) few
  exact (edits.numbered (Nat.lt_of_succ_lt room)).fresh room

end Reached
end State
end Lockstep
