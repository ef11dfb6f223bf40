import Mathlib.Logic.Relation
import Lockstep.Proofs.Entity.Links

/-!
# Loops of carriers

What carries may be carried itself, so that one gets from an entity to others by following what is
carried. There are no loops if one never gets back (`EntityTable.Loopless`). When entities put
things down, go, or come, there are none that were not there before (`EntityTable.Relieves`). When
one picks another one up, a loop comes about exactly if the one that is picked up carries the other
already, however many are between them (`EntityTable.Loads.loopless_iff`).
-/

set_option autoImplicit false

namespace Lockstep

open Relation (TransGen ReflTransGen)

/-- A way that has one link more at its disposal goes along the old ones only, or along the new one,
and before and after it along old ones. -/
theorem transGen_cases {α : Type} {link more : α → α → Prop} {source target : α}
    (only : ∀ first last, more first last → link first last ∨ first = source ∧ last = target)
    {first last : α} (way : TransGen more first last) :
    TransGen link first last ∨ ReflTransGen link first source ∧ ReflTransGen link target last := by
  induction way with
  | single step =>
    obtain old | ⟨rfl, rfl⟩ := only _ _ step
    · exact .inl (.single old)
    · exact .inr ⟨.refl, .refl⟩
  | tail _ step inductionHypothesis =>
    obtain old | ⟨rfl, rfl⟩ := only _ _ step
    · obtain way | ⟨there, back⟩ := inductionHypothesis
      · exact .inl (way.tail old)
      · exact .inr ⟨there, back.tail old⟩
    · obtain way | ⟨there, _⟩ := inductionHypothesis
      · exact .inr ⟨way.to_reflTransGen, .refl⟩
      · exact .inr ⟨there, .refl⟩

namespace EntityTable

/-- An entity carries another one. -/
def Carries (table : EntityTable) (carrier object : EntityId) : Prop :=
  table.burdenOf carrier = some object

/-- Nobody carries itself, however many are between. -/
def Loopless (table : EntityTable) : Prop := ∀ id, ¬ TransGen table.Carries id id

/-- Nobody carries anything that they did not carry before. -/
def Relieves (before after : EntityTable) : Prop :=
  ∀ carrier object, after.Carries carrier object → before.Carries carrier object

/-- An entity that carries nothing picks another one up. -/
structure Loads (carrier object : EntityId) (before after : EntityTable) : Prop where
  apart : object ≠ carrier
  free : before.burdenOf carrier = none
  burdens : ∀ id, after.burdenOf id = if id = carrier then some object else before.burdenOf id

variable {before middle after table : EntityTable}

theorem loopless_empty : EntityTable.empty.Loopless := by
  intro id loop
  obtain ⟨next, carries, _⟩ := TransGen.head'_iff.mp loop
  cases carries

/-! ## Putting down -/

namespace Relieves

theorem refl (table : EntityTable) : table.Relieves table := fun _ _ carries => carries

theorem trans (start : before.Relieves middle) (rest : middle.Relieves after) :
    before.Relieves after :=
  fun carrier object carries => start carrier object (rest carrier object carries)

theorem of_burdens (same : ∀ id, after.burdenOf id = before.burdenOf id) :
    before.Relieves after :=
  fun carrier _ carries => (same carrier).symm.trans carries

/-- One entity has changed, but not in what it carries. -/
theorem modify {id : EntityId} {change : Entity → Entity}
    (kept : ∀ entity, (change entity).carrying = entity.carrying) :
    table.Relieves (table.modify id change) :=
  of_burdens (burdenOf_modify kept)

/-- A new entity carries nothing. -/
theorem allocate (table : EntityTable) (kind : EntityKind) (name : String)
    (template : EntityTemplate) : table.Relieves (table.allocate kind name template).2 := by
  intro carrier object carries
  rw [Carries, burdenOf, field, get?_allocate] at carries
  split at carries
  · cases carries
  · exact carries

/-- An entity puts down what it carries. -/
theorem set_none {id : EntityId} {change : Entity → Entity}
    (set : ∀ entity, (change entity).carrying = none) :
    table.Relieves (table.modify id change) := by
  intro carrier object carries
  rw [Carries, burdenOf, field_modify] at carries
  split at carries
  · cases found : table.get? id with
    | none =>
      rw [found] at carries
      cases carries
    | some entity =>
      rw [found, Option.map_some, Option.getD_some, set] at carries
      cases carries
  · exact carries

theorem erase (table : EntityTable) (id : EntityId) : table.Relieves (table.erase id) := by
  intro carrier object carries
  rw [Carries, burdenOf, field_erase] at carries
  split at carries
  · cases carries
  · exact carries

theorem cutLinks (table : EntityTable) (gone : Entity) (id : EntityId) :
    table.Relieves (State.cutLinks table gone id) := by
  intro carrier object carries
  rw [Carries, burdenOf_cutLinks] at carries
  split at carries
  · cases carries
  · exact carries

/-- No loop comes about. -/
theorem loopless (relieves : before.Relieves after) (free : before.Loopless) : after.Loopless :=
  fun id loop => free id (TransGen.mono relieves id id loop)

end Relieves

/-! ## Picking up -/

namespace Loads

variable {carrier object : EntityId}

theorem grab (apart : object ≠ carrier) {holder : Entity}
    (found : table.get? carrier = some holder) (free : holder.carrying = none) :
    Loads carrier object table
      ((table.modify carrier fun entity => { entity with carrying := some object }).modify object
        fun entity => { entity with carriedBy := some carrier }) :=
  ⟨apart, (field_of_get? found _ _).trans free,
    burdenOf_grab (Table.contains_of_get? found) object⟩

theorem carries_iff (loads : Loads carrier object before after) {first last : EntityId} :
    after.Carries first last ↔
      before.Carries first last ∨ first = carrier ∧ last = object := by
  rw [Carries, Carries, loads.burdens]
  by_cases here : first = carrier
  · rw [if_pos here, here, loads.free]
    simp [eq_comm]
  · simp [here]

/-- **Who picks another one up makes a loop exactly if it is carried by that one**, however many are
between them. -/
theorem loopless_iff (loads : Loads carrier object before after) (free : before.Loopless) :
    after.Loopless ↔ ¬ TransGen before.Carries object carrier := by
  constructor
  · intro still back
    have way : TransGen after.Carries object carrier :=
      TransGen.mono (fun _ _ carries => loads.carries_iff.mpr (.inl carries)) _ _ back
    exact still object (way.tail (loads.carries_iff.mpr (.inr ⟨rfl, rfl⟩)))
  · intro forth id loop
    obtain old | ⟨there, back⟩ := transGen_cases (fun _ _ => loads.carries_iff.mp) loop
    · exact free id old
    · obtain same | way := Relation.reflTransGen_iff_eq_or_transGen.mp (back.trans there)
      · exact loads.apart same.symm
      · exact forth way

end Loads
end EntityTable

theorem State.relieves_despawn {before after : State} {id : EntityId} {trace : List TraceEntry}
    (gone : before.despawn id = some (trace, after)) : before.entities.Relieves after.entities := by
  obtain ⟨entity, _, _, rfl⟩ := despawn_eq gone
  have silenced : before.entities.Relieves (before.stopSounds id).entities := .modify fun _ => rfl
  exact (silenced.trans (.erase _ id)).trans (.cutLinks _ entity id)

end Lockstep
