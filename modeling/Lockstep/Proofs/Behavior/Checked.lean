import Lockstep.Behavior.Library
import Lockstep.Proofs.Except

/-!
# Checked behaviors

A behavior is checked when it is valid and its operands can be decoded (`Behavior.Checked`). In a
library of checked behaviors every instruction says what to do (`Library.Checked.decodes`) and goes
on at an instruction of the same behavior or returns (`Library.Checked.leads`).
-/

set_option autoImplicit false

namespace Lockstep

namespace Behavior

/-! ## Valid behaviors -/

theorem reaches_iff {count : Nat} {target : UInt8} :
    reaches count target = true ↔ targetError ≤ target ∨ target.toNat < count := by
  simp [reaches]

theorem firstStray?_eq_none_iff {count index : Nat} {instructions : List Instruction} :
    firstStray? count index instructions = none ↔
      ∀ instruction ∈ instructions, ∀ result, reaches count (instruction.target result) := by
  induction instructions generalizing index with
  | nil => simp [firstStray?]
  | cons first rest inductionHypothesis =>
    simp only [List.forall_mem_cons, Bool.forall_bool, Instruction.target, firstStray?]
      at inductionHypothesis ⊢
    cases reaches count first.trueTarget with
    | false => simp
    | true =>
      cases reaches count first.falseTarget with
      | false => simp
      | true => simpa using inductionHypothesis

/-- A behavior is valid when its instructions can be addressed and all targets lead somewhere. -/
theorem validate_eq_ok_iff {behavior : Behavior} :
    behavior.validate = .ok () ↔
      behavior.instructions.length ≤ maxInstructions ∧
        ∀ instruction ∈ behavior.instructions, ∀ result,
          reaches behavior.instructions.length (instruction.target result) := by
  rw [← @firstStray?_eq_none_iff _ 0, validate]
  rcases Nat.lt_or_ge maxInstructions behavior.instructions.length with many | few
  · simp [many, Nat.not_le.mpr many]
  · cases firstStray? behavior.instructions.length 0 behavior.instructions <;>
      simp [few, Nat.not_lt.mpr few]

/-- A behavior that is valid and whose operands can be decoded. -/
structure Checked (behavior : Behavior) : Prop where
  valid : behavior.validate = .ok ()
  decodes : ∀ instruction ∈ behavior.instructions,
    ∃ operand, instruction.decodeOperand = .ok operand

end Behavior

/-! ## Libraries -/

namespace Library

/-- A library of checked behaviors. -/
def Checked (library : Library) : Prop :=
  ∀ id behavior, library.get? id = some behavior → behavior.Checked

theorem contains_iff {library : Library} {id : UInt16} :
    library.contains id = true ↔ ∃ behavior, library.get? id = some behavior := by
  rw [contains, Table.contains, Option.isSome_iff_exists]
  rfl

theorem get?_of_not_contains {library : Library} {id : UInt16}
    (absent : ¬ library.contains id = true) : library.get? id = none :=
  Option.not_isSome_iff_eq_none.mp absent

/-- All behaviors of a library are among those that it was made of. -/
theorem mem_of_ofBehaviors {behaviors : List Behavior} {library : Library}
    (gathered : ofBehaviors behaviors = .ok library) {id : UInt16} {behavior : Behavior}
    (found : library.get? id = some behavior) : behavior ∈ behaviors := by
  have grown : ∀ (rest : List Behavior) (start : Library), rest.foldlM insert start = .ok library →
      start.get? id = some behavior ∨ behavior ∈ rest := by
    intro rest
    induction rest with
    | nil =>
      intro start same
      obtain rfl : start = library := Except.ok.inj same
      exact .inl found
    | cons first rest inductionHypothesis =>
      intro start folded
      rw [List.foldlM_cons, bind_eq_ok_iff] at folded
      obtain ⟨next, inserted, folded⟩ := folded
      rw [insert] at inserted
      split at inserted
      · cases inserted
      · obtain rfl := Except.ok.inj inserted
        rcases inductionHypothesis _ folded with earlier | later
        · rw [get?, Table.get?_insert] at earlier
          split at earlier
          · exact .inr (List.mem_cons.mpr (.inl (Option.some.inj earlier).symm))
          · exact .inl earlier
        · exact .inr (List.mem_cons_of_mem _ later)
  rcases grown behaviors empty gathered with before | member
  · exact absurd before (by simp [get?, empty])
  · exact member

theorem instruction?_eq_some_iff {library : Library} {id : UInt16} {index : UInt8}
    {instruction : Instruction} :
    library.instruction? id index = some instruction ↔
      ∃ behavior, library.get? id = some behavior ∧
        behavior.instructions[index.toNat]? = some instruction :=
  Option.bind_eq_some_iff

theorem contains_of_instruction? {library : Library} {id : UInt16} {index : UInt8}
    {instruction : Instruction} (found : library.instruction? id index = some instruction) :
    library.contains id = true := by
  obtain ⟨behavior, held, _⟩ := instruction?_eq_some_iff.mp found
  exact contains_iff.mpr ⟨behavior, held⟩

namespace Checked

variable {library : Library} {id : UInt16} {index : UInt8} {instruction : Instruction}

/-- Every instruction has an operand that can be decoded. -/
theorem decodes (checked : library.Checked)
    (found : library.instruction? id index = some instruction) :
    ∃ operand, instruction.decodeOperand = .ok operand := by
  obtain ⟨behavior, loaded, listed⟩ := instruction?_eq_some_iff.mp found
  exact (checked id behavior loaded).decodes instruction (List.mem_of_getElem? listed)

/-- Every target returns or is an instruction of the same behavior. -/
theorem leads (checked : library.Checked)
    (found : library.instruction? id index = some instruction) (result : Bool) :
    targetError ≤ instruction.target result ∨
      ∃ next, library.instruction? id (instruction.target result) = some next := by
  obtain ⟨behavior, loaded, listed⟩ := instruction?_eq_some_iff.mp found
  have reaches := (Behavior.validate_eq_ok_iff.mp (checked id behavior loaded).valid).2 instruction
    (List.mem_of_getElem? listed) result
  refine (Behavior.reaches_iff.mp reaches).imp_right fun inside => ?_
  exact ⟨_, instruction?_eq_some_iff.mpr ⟨behavior, loaded, List.getElem?_eq_getElem inside⟩⟩

end Checked
end Library
end Lockstep
