import Lockstep.Proofs.Primitive.Outcomes

/-!
# Primitives that fail

A primitive that fails leaves no traces (`Primitive.dispatch_atomic`): when it takes the false
branch or ends with a fault, the context is what it was before. So a frame that catches the fault
does not go on with things half done. The one exception is a random number that is drawn and then
cannot be stored. It is gone, but nothing else has changed.

Everything that may fail comes before the first change. What is left to show for each primitive is
that the branches which change something are not the failing ones.
-/

set_option autoImplicit false

namespace Lockstep

/-- A primitive took the false branch, or ended with a fault. -/
def Exit.Fails : Exit → Prop
  | .branch result => result = false
  | .yield _ => False
  | .fault _ => True

namespace Primitive

/-- When a primitive fails, the context is what it was before, but for a random number that may have
been drawn. -/
theorem Outcome.atomic {context : Context} {action : Primitive} {result : Exit × Context}
    (outcome : Outcome context action result) (fails : result.1.Fails) :
    ∃ random, result.2 = { context with random } ∧
      (action.kind ≠ .randomNumber → random = context.random) := by
  cases outcome with
  | fails | passes => exact ⟨context.random, rfl, fun _ => rfl⟩
  | loses => exact ⟨_, rfl, fun other => absurd rfl other⟩
  | sleeps | animates => exact fails.elim
  | _ => exact absurd fails.symm Bool.false_ne_true

/-- **Primitives fail atomically.** Whatever kind of primitive is carried out with whatever operand,
and wherever it had been resumed: if it takes the false branch or ends with a fault, the entities,
the sounds, the frame, the temporary values, the removals asked for and everything given to the
outside are exactly as before. Only a random number may have been drawn, and only by the primitive
that is there for it. -/
theorem dispatch_atomic (kind : PrimitiveKind) (operand : Operand) (resumed : Option UInt32)
    (context : Context) (fails : (dispatch kind operand resumed context).1.Fails) :
    ∃ random, (dispatch kind operand resumed context).2 = { context with random } ∧
      (kind ≠ .randomNumber → random = context.random) := by
  have unchanged : ∃ random, context = { context with random } ∧
      (kind ≠ .randomNumber → random = context.random) := ⟨context.random, rfl, fun _ => rfl⟩
  cases operand with
  | call request => exact unchanged
  | primitive action =>
    rw [dispatch] at fails ⊢
    by_cases matching : action.kind = kind
    · subst matching
      rw [if_pos rfl] at fails ⊢
      exact (run_outcome action resumed context).atomic fails
    · rw [if_neg matching]
      exact unchanged

/-- A number is drawn to be stored in a literal, which cannot be set, and a temporary value is
divided by zero. Both fail, and only the first has changed anything: there is one random number
less. -/
theorem dispatch_atomic_literal :
    let context : Context :=
      { owner := ⟨1⟩
        entities := (EntityTable.empty.allocate .object "die" default).2
        sounds := SoundIndex.empty
        frame := .new 300 none none (Vector.replicate 4 0)
        temps := Vector.replicate 8 0
        random := Random.Stream.ofSeed 7
        effects := Effects.none
        removals := [] }
    let draw := dispatch .randomNumber (.primitive (.randomNumber ⟨.literal, 0⟩ ⟨.literal, 6⟩)) none
      context
    let divide := dispatch .expression (.primitive (.expression ⟨.temp, 0⟩ ⟨.literal, 0⟩ .div)) none
      context
    draw.1 = .fault (.readOnly .literal) ∧
      (∃ random, draw.2 = { context with random } ∧ random ≠ context.random) ∧
      divide = (.fault .divideByZero, context) := by
  intro context draw divide
  have drawFails : draw.1 = .fault (.readOnly .literal) := by decide +kernel
  have drawn : draw.2.random ≠ context.random := by decide +kernel
  have divideFails : divide.1 = .fault .divideByZero := by decide +kernel
  have drawLost : draw.1.Fails := drawFails.symm ▸ trivial
  have divideLost : divide.1.Fails := divideFails.symm ▸ trivial
  obtain ⟨random, after, _⟩ := dispatch_atomic _ _ none context drawLost
  obtain ⟨_, unchanged, kept⟩ := dispatch_atomic _ _ none context divideLost
  rw [kept nofun] at unchanged
  refine ⟨drawFails, ⟨random, after, fun same => drawn ?_⟩, Prod.ext divideFails unchanged⟩
  rw [after]
  exact same

end Primitive
end Lockstep
