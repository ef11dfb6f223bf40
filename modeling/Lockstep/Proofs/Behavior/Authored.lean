import Lockstep.Behavior.Authored
import Lockstep.Proofs.Behavior.Checked
import Lockstep.Proofs.Behavior.Container
import Lockstep.Proofs.Operand.Layout

/-!
# Authored behaviors and what they compile to

An authored behavior compiles exactly when its calls are in the call range, its instructions can be
addressed, and the targets that it gives as numbers lead somewhere (`AuthoredBehavior.Compilable`).
The behavior that it compiles to says the same: it has the same operands, and its targets are the
ones that were written (`AuthoredBehavior.compile_faithful`).

The compiler only looks whether an operand can be decoded again, and counts on to the next
instruction in a single byte. That it is the same operand follows from the layouts, and that the
count does not wrap around follows from the bound on the number of instructions.
-/

set_option autoImplicit false

namespace Lockstep

/-! ## Instructions of operands -/

theorem Primitive.length_encode_le (action : Primitive) : action.encode.length ≤ 16 := by
  rw [action.length_encode]
  cases action.kind <;> decide

theorem Operand.length_encode_le (operand : Operand) : operand.encode.length ≤ 16 := by
  cases operand with
  | primitive action => exact action.length_encode_le
  | call request =>
    have whole : request.encode.length = callLength := request.length_encode
    rw [Operand.encode, whole]
    decide

/-- An operand is read from the instruction that was made with it. -/
theorem Instruction.decodeOperand_ofOperand {operand : Operand} (callable : operand.Callable)
    (trueTarget falseTarget : UInt8) :
    (ofOperand operand trueTarget falseTarget).decodeOperand = .ok operand := by
  rw [decodeOperand, ofOperand, toList_operandBuffer operand.length_encode_le]
  exact Operand.decode_encode callable _

/-! ## Targets -/

namespace AuthoredTarget

/-- What a target byte has to be for an authored target of the instruction at an index, in a
behavior of so many instructions. -/
def Denotes (index count : Nat) : AuthoredTarget → UInt8 → Prop
  | .index target, byte => byte = target
  | .next, byte => if index + 1 = count then byte = targetTrue else byte.toNat = index + 1
  | .returnTrue, byte => byte = targetTrue
  | .returnFalse, byte => byte = targetFalse
  | .error, byte => byte = targetError

/-- The byte of an authored target is the one that it denotes. The index of the next instruction
fits into a byte because there are not too many instructions. -/
theorem denotes_resolve {index count : Nat} (inside : index < count) (few : count ≤ maxInstructions)
    (target : AuthoredTarget) : target.Denotes index count (target.resolve index count) := by
  cases target with
  | next =>
    unfold maxInstructions at few
    by_cases last : index + 1 = count
    · rw [Denotes, if_pos last, resolve, if_neg (by omega)]
    · rw [Denotes, if_neg last, resolve, if_pos (by omega)]
      exact UInt8.toNat_ofNat_of_lt' (show index + 1 < 256 by omega)
  | index | returnTrue | returnFalse | error => rfl

/-- Words always lead somewhere, and numbers when they are those of an instruction or a return. -/
theorem reaches_resolve_iff {index count : Nat} (few : count ≤ maxInstructions)
    (target : AuthoredTarget) :
    Behavior.reaches count (target.resolve index count) = true ↔
      ∀ given, target = .index given → given.toNat < count ∨ targetError ≤ given := by
  cases target with
  | index given => simp [resolve, Behavior.reaches_iff, or_comm]
  | next =>
    refine iff_of_true ?_ (by simp)
    unfold maxInstructions at few
    rw [resolve, Behavior.reaches_iff]
    split
    case isTrue more =>
      have small : index + 1 < UInt8.size := Nat.lt_of_lt_of_le more (Nat.le_trans few (by decide))
      exact .inr (by rwa [UInt8.toNat_ofNat_of_lt' small])
    case isFalse last => exact .inl (by decide)
  | returnTrue | returnFalse | error =>
    exact iff_of_true (Behavior.reaches_iff.mpr (.inl (by rw [resolve]; decide))) (by simp)

end AuthoredTarget

/-! ## Compilation -/

/-- The instruction of an authored one at an index, among so many. -/
def AuthoredInstruction.assembled (authored : AuthoredInstruction) (index count : Nat) :
    Instruction :=
  .ofOperand authored.op ((authored.trueTarget.getD .next).resolve index count)
    ((authored.falseTarget.getD .returnFalse).resolve index count)

/-- The targets of an instruction lead somewhere when those that are numbers do. -/
theorem AuthoredInstruction.reaches_assembled_iff {index count : Nat}
    (few : count ≤ maxInstructions) (authored : AuthoredInstruction) :
    (∀ result, Behavior.reaches count ((authored.assembled index count).target result) = true) ↔
      ∀ target : UInt8,
        authored.trueTarget = some (.index target) ∨ authored.falseTarget = some (.index target) →
          target.toNat < count ∨ targetError ≤ target := by
  obtain ⟨op, trueTarget, falseTarget⟩ := authored
  -- What is left out stands for a word and not for a number.
  have given (written : Option AuthoredTarget) (word : AuthoredTarget)
      (named : ∀ target, word ≠ .index target) (target : UInt8) :
      written.getD word = .index target ↔ written = some (.index target) := by
    cases written <;> simp [named]
  simp only [Bool.forall_bool, Instruction.target, assembled, Instruction.ofOperand,
    AuthoredTarget.reaches_resolve_iff few, given trueTarget .next (by simp),
    given falseTarget .returnFalse (by simp), or_imp, forall_and]
  exact and_comm

namespace AuthoredBehavior

/-- The behavior of an authored one, whether it is one that can run or not. -/
def assembled (authored : AuthoredBehavior) : Behavior where
  id := authored.id
  name := authored.name
  argCount := authored.args
  localCount := authored.locals
  instructions := authored.instructions.mapIdx fun index written =>
    written.assembled index authored.instructions.length

/-- An authored behavior that compiles. -/
structure Compilable (authored : AuthoredBehavior) : Prop where
  /-- What is called is in the call range. -/
  callable : ∀ written ∈ authored.instructions, written.op.Callable
  few : authored.instructions.length ≤ maxInstructions
  /-- A target that is a number is that of an instruction or a return. -/
  targets : ∀ written ∈ authored.instructions, ∀ target : UInt8,
    written.trueTarget = some (.index target) ∨ written.falseTarget = some (.index target) →
      target.toNat < authored.instructions.length ∨ targetError ≤ target

theorem compileInstruction_eq_ok_iff {id : UInt16} {index count : Nat}
    {written : AuthoredInstruction} {instruction : Instruction} :
    compileInstruction id index count written = .ok instruction ↔
      written.op.Callable ∧ written.assembled index count = instruction := by
  have decoded (callable : written.op.Callable) :
      (written.assembled index count).decodeOperand = .ok written.op :=
    Instruction.decodeOperand_ofOperand callable _ _
  obtain ⟨op, trueTarget, falseTarget⟩ := written
  simp only [compileInstruction, AuthoredInstruction.assembled] at decoded ⊢
  cases op with
  | primitive action => simp [decoded trivial, Operand.Callable]
  | call request =>
    by_cases callable : callBase ≤ request.behavior
    · have same : (Operand.call request).Callable := callable
      simp [decoded same, UInt16.not_lt.mpr callable, same]
    · simp [UInt16.not_le.mp callable, callable, Operand.Callable]

theorem compileInstructions_eq_ok_iff {id : UInt16} {count index : Nat}
    {authored : List AuthoredInstruction} {instructions : List Instruction} :
    compileInstructions id count index authored = .ok instructions ↔
      (∀ written ∈ authored, written.op.Callable) ∧
        (authored.mapIdx fun place written => written.assembled (index + place) count) =
          instructions := by
  induction authored generalizing index instructions with
  | nil => simp [compileInstructions]
  | cons first rest inductionHypothesis =>
    simp only [compileInstructions, bind_eq_ok_iff, compileInstruction_eq_ok_iff,
      inductionHypothesis, List.forall_mem_cons, List.mapIdx_cons, Except.ok.injEq]
    constructor
    · rintro ⟨_, ⟨callable, rfl⟩, _, ⟨others, rfl⟩, rfl⟩
      exact ⟨⟨callable, others⟩, by simp [Nat.add_assoc, Nat.add_comm 1]⟩
    · rintro ⟨⟨callable, others⟩, rfl⟩
      exact ⟨_, ⟨callable, rfl⟩, _, ⟨others, rfl⟩, by simp [Nat.add_assoc, Nat.add_comm 1]⟩

theorem validate_assembled_iff (authored : AuthoredBehavior) :
    authored.assembled.validate = .ok () ↔
      authored.instructions.length ≤ maxInstructions ∧ ∀ written ∈ authored.instructions,
        ∀ target : UInt8,
          written.trueTarget = some (.index target) ∨ written.falseTarget = some (.index target) →
            target.toNat < authored.instructions.length ∨ targetError ≤ target := by
  rw [Behavior.validate_eq_ok_iff, assembled, List.length_mapIdx]
  refine and_congr_right fun few => ?_
  simp only [List.forall_mem_iff_forall_getElem, List.length_mapIdx, List.getElem_mapIdx]
  exact forall₂_congr fun index _ => AuthoredInstruction.reaches_assembled_iff few _

theorem compile_eq_ok_iff {authored : AuthoredBehavior} {behavior : Behavior} :
    authored.compile = .ok behavior ↔ authored.Compilable ∧ authored.assembled = behavior := by
  simp only [compile, bind_eq_ok_iff, compileInstructions_eq_ok_iff, Nat.zero_add, Except.ok.injEq]
  constructor
  · rintro ⟨_, ⟨callable, rfl⟩, _, valid, rfl⟩
    obtain ⟨few, targets⟩ := authored.validate_assembled_iff.mp valid
    exact ⟨⟨callable, few, targets⟩, rfl⟩
  · rintro ⟨⟨callable, few, targets⟩, rfl⟩
    exact ⟨_, ⟨callable, rfl⟩, (), authored.validate_assembled_iff.mpr ⟨few, targets⟩, rfl⟩

/-! ## What compiling keeps -/

/-- A behavior that can run and says what an authored one says. -/
structure Renders (authored : AuthoredBehavior) (behavior : Behavior) : Prop where
  id : behavior.id = authored.id
  name : behavior.name = authored.name
  argCount : behavior.argCount = authored.args
  localCount : behavior.localCount = authored.locals
  count : behavior.instructions.length = authored.instructions.length
  valid : behavior.validate = .ok ()
  /-- The operands and targets are the ones that were written at the same index. A true target that
  was left out is the next instruction, and a false target that was left out returns false. -/
  instruction : ∀ (index : Nat) (written : AuthoredInstruction) (instruction : Instruction),
    authored.instructions[index]? = some written →
    behavior.instructions[index]? = some instruction →
      instruction.decodeOperand = .ok written.op ∧
      (written.trueTarget.getD .next).Denotes index authored.instructions.length
        instruction.trueTarget ∧
      (written.falseTarget.getD .returnFalse).Denotes index authored.instructions.length
        instruction.falseTarget

theorem Compilable.renders {authored : AuthoredBehavior} (compilable : authored.Compilable) :
    authored.Renders authored.assembled where
  id := rfl
  name := rfl
  argCount := rfl
  localCount := rfl
  count := List.length_mapIdx
  valid := authored.validate_assembled_iff.mpr ⟨compilable.few, compilable.targets⟩
  instruction := by
    intro index written instruction wrote made
    obtain ⟨inside, rfl⟩ := List.getElem?_eq_some_iff.mp wrote
    rw [assembled, List.getElem?_mapIdx, wrote, Option.map_some, Option.some.injEq] at made
    subst made
    have callable := compilable.callable _ (List.getElem_mem inside)
    exact ⟨Instruction.decodeOperand_ofOperand callable _ _,
      AuthoredTarget.denotes_resolve inside compilable.few _,
      AuthoredTarget.denotes_resolve inside compilable.few _⟩

/-- What an authored behavior compiles to can run. -/
theorem checked_of_compile {authored : AuthoredBehavior} {behavior : Behavior}
    (compiled : authored.compile = .ok behavior) : behavior.Checked := by
  obtain ⟨compilable, rfl⟩ := compile_eq_ok_iff.mp compiled
  refine ⟨compilable.renders.valid, fun instruction member => ?_⟩
  obtain ⟨index, inside, rfl⟩ := List.mem_mapIdx.mp member
  exact ⟨_, Instruction.decodeOperand_ofOperand
    (compilable.callable _ (List.getElem_mem inside)) _ _⟩

/-- **Authored behaviors compile to what they say, and fail to compile only when they must.** -/
theorem compile_faithful (authored : AuthoredBehavior) :
    ((∃ behavior, authored.compile = .ok behavior) ↔ authored.Compilable) ∧
    ∀ behavior, authored.compile = .ok behavior → authored.Renders behavior := by
  simp only [compile_eq_ok_iff, exists_and_left, exists_eq', and_true, true_and]
  rintro behavior ⟨compilable, rfl⟩
  exact compilable.renders

/-- A behavior whose targets are left out, named and numbered. With one instruction less it would
not compile, because a target would lead nowhere. -/
theorem compile_faithful_loop :
    let sleep : AuthoredInstruction := ⟨.primitive (.sleep 3), none, none⟩
    let call : AuthoredInstruction :=
      ⟨.call ⟨0x0100, #v[0, 0, 0, 0], ⟨0⟩⟩, some (.index 2), some .next⟩
    let notify : AuthoredInstruction := ⟨.primitive (.notify 7), some .next, some .error⟩
    let authored : AuthoredBehavior := ⟨0x0101, "loop", 0, 0, [sleep, call, notify]⟩
    let behavior : Behavior := ⟨0x0101, "loop", 0, 0,
      [⟨0, 1, targetFalse, operandBuffer [3, 0]⟩, ⟨0x0100, 2, 2, operandBuffer []⟩,
        ⟨26, targetTrue, targetError, operandBuffer [7, 0]⟩]⟩
    let shorter : AuthoredBehavior := ⟨0x0101, "loop", 0, 0, [sleep, call]⟩
    authored.compile = .ok behavior ∧ authored.Renders behavior ∧
      ¬ ∃ behavior, shorter.compile = .ok behavior := by
  intro sleep call notify authored behavior shorter
  have compiled : authored.compile = .ok behavior := by decide +kernel
  refine ⟨compiled, (compile_faithful authored).2 behavior compiled, fun made => ?_⟩
  have compilable : shorter.Compilable := (compile_faithful shorter).1.mp made
  have leads := compilable.targets call (by decide) 2 (.inl rfl)
  exact absurd leads (by decide)

end AuthoredBehavior
end Lockstep
