import Lockstep.Proofs.Entity.Burdens
import Lockstep.Proofs.Primitive.Outcomes

/-!
# What primitives make entities carry

Only picking something up makes an entity carry what it did not carry before. It makes the owner
carry the stack object, and asks for no removal (`Primitive.run_burdens`).
-/

set_option autoImplicit false

namespace Lockstep

/-- Nobody carries anything after a primitive that they did not carry before. -/
def Context.Relieves (before after : Context) : Prop := before.entities.Relieves after.entities

theorem Context.relieves_write {context after : Context} {reference : VarRef} {value : Int16}
    (written : context.write reference value = .ok after) : context.Relieves after := by
  cases wrote_of_write written with
  | temps temps => exact .refl _
  | frame locals params chosen => exact .refl _
  | entity id place => exact .modify fun _ => rfl

namespace Primitive

variable {context : Context}

/-- What a primitive comes to has relieved all, or the owner has picked something up. -/
theorem Outcome.burdens {action : Primitive} {result : Exit × Context}
    (outcome : Outcome context action result) :
    context.Relieves result.2 ∨ ∃ object,
      EntityTable.Loads context.owner object context.entities result.2.entities ∧
        result.2.removals = context.removals := by
  cases outcome with
  | fails | passes | sleeps | loses | chooses | asks | notifies => exact .inl (.refl _)
  | stores written => exact .inl (Context.relieves_write written)
  | @draws _ _ _ random _ written =>
    exact .inl (@Context.relieves_write { context with random } _ _ _ written)
  | plays | silences | releases | shows | animates | relates => exact .inl (.modify fun _ => rfl)
  | grabs _ apart holds free => exact .inr ⟨_, .grab apart holds free, rfl⟩
  | @drops object me =>
    have freed : context.Relieves (context.modifyEntity object fun entity =>
        { entity with carriedBy := none, position := me.position }) := .modify fun _ => rfl
    exact .inl (freed.trans (.set_none fun _ => rfl))

/-- **Only picking something up makes an entity carry more.** -/
theorem run_burdens (action : Primitive) (resumed : Option UInt32) :
    context.Relieves (action.run resumed context).2 ∨ ∃ object,
      EntityTable.Loads context.owner object context.entities
          (action.run resumed context).2.entities ∧
        (action.run resumed context).2.removals = context.removals :=
  (run_outcome action resumed context).burdens

end Primitive
end Lockstep
