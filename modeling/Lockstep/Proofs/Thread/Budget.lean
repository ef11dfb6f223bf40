import Lockstep.Machine
import Lockstep.Proofs.Path
import Lockstep.Proofs.Thread.Faults

/-!
# Budgets of turns

The budget of a turn matters only when it is used up. No instruction fails because of the budget
(`Underway.step_inBudget`). So a turn is stopped for it exactly if it has executed as many
instructions as the budget allows, has gone on after each of them, and its thread is still there
(`Underway.exhausted_iff`). The thread is removed then, whatever its frames catch
(`Underway.runInstructions_exhausted`). A turn that is not stopped like this comes to the same with
every larger budget (`Underway.runInstructions_larger`).
-/

set_option autoImplicit false

namespace Lockstep

variable {library : Library} {budget larger : UInt32}

/-- A turn takes as many instructions as the settings say, but at least one. -/
theorem Settings.toNat_turnBudget (settings : Settings) :
    settings.turnBudget.toNat = max settings.instructionBudget.toNat 1 := by
  show (if settings.instructionBudget ≤ 1 then 1 else settings.instructionBudget).toNat = _
  by_cases most : settings.instructionBudget ≤ 1
  · rw [if_pos most]
    exact (Nat.max_eq_right (UInt32.le_iff_toNat_le.mp most)).symm
  · rw [if_neg most]
    have least := UInt32.lt_iff_toNat_lt.mp (UInt32.not_le.mp most)
    exact (Nat.max_eq_left (Nat.le_of_lt least)).symm

theorem Settings.turnBudget_pos (settings : Settings) : 0 < settings.turnBudget.toNat := by
  rw [settings.toNat_turnBudget]
  exact Nat.lt_of_lt_of_le Nat.one_pos (Nat.le_max_right _ _)

/-- The turn was stopped because its budget was used up. -/
def TurnEnd.Exhausted (ending : TurnEnd) : Prop :=
  ∃ budget, ending = .faulted (.budgetExceeded budget)

namespace Underway

variable {underway : Underway} {id : ThreadId} {thread : Thread} {count more : Nat}

/-! ## Instructions of a turn -/

/-- A thread executes one instruction, which neither gives way nor ends the turn. -/
def GoesOn (library : Library) (id : ThreadId) (before after : Underway) : Prop :=
  ∃ thread, before.state.threads.get? id = some thread ∧
    step library id thread before = (.next, after)

/-- After an instruction that does not end the turn, the turn has one instruction less. -/
theorem GoesOn.runInstructions_succ {after : Underway} (goes : GoesOn library id underway after)
    (budget : UInt32) (count : Nat) :
    runInstructions library budget id (count + 1) underway =
      runInstructions library budget id count after := by
  obtain ⟨thread, found, stepped⟩ := goes
  rw [runInstructions, found]
  dsimp only
  rw [stepped]

/-- A turn ends before its first instruction or with it, or goes on after it. -/
theorem runInstructions_cases (library : Library) (id : ThreadId) (underway : Underway) :
    (∃ ending after, ¬ ending.Exhausted ∧ ∀ budget count,
      runInstructions library budget id (count + 1) underway = (ending, after)) ∨
    ∃ after, GoesOn library id underway after := by
  cases found : underway.state.threads.get? id with
  | none =>
    refine .inl ⟨.removed, underway, nofun, fun budget count => ?_⟩
    rw [runInstructions, found]
  | some thread =>
    rcases stepped : step library id thread underway with ⟨flow, after⟩
    cases flow with
    | next => exact .inr ⟨after, thread, found, stepped⟩
    | done ending =>
      refine .inl ⟨ending, after, fun ⟨spent, same⟩ => ?_, fun budget count => ?_⟩
      · subst same
        exact step_inBudget thread (congrArg Prod.fst stepped)
      · rw [runInstructions, found]
        dsimp only
        rw [stepped]

/-- A thread that is not there executes nothing. -/
theorem runInstructions_absent (absent : underway.state.threads.get? id = none) (budget : UInt32)
    (count : Nat) : runInstructions library budget id count underway = (.removed, underway) := by
  cases count with
  | zero =>
    rw [runInstructions, Table.contains, absent]
    rfl
  | succ remaining => rw [runInstructions, absent]

/-- A thread that is not there has no turn. -/
theorem runTurn_absent (budget : UInt32) (absent : underway.state.threads.get? id = none) :
    runTurn library budget id underway = (.removed, underway) :=
  runInstructions_absent absent budget budget.toNat

/-- A turn goes on after the first instructions, if these did not end it. -/
theorem runInstructions_path {passed : List Underway} {last : Underway}
    (path : Path (GoesOn library id) underway passed last) (budget : UInt32) (count : Nat) :
    runInstructions library budget id (passed.length + count) underway =
      runInstructions library budget id count last := by
  induction path with
  | here point => rw [List.length_nil, Nat.zero_add]
  | next goes _ inductionHypothesis =>
    rw [List.length_cons, Nat.add_right_comm, goes.runInstructions_succ, inductionHypothesis]

/-- A turn that has executed all instructions of its budget is stopped, and its thread is removed,
whatever frames it has. -/
theorem runInstructions_exhausted {passed : List Underway} {last : Underway}
    (path : Path (GoesOn library id) underway passed last)
    (present : last.state.threads.contains id = true) (budget : UInt32) :
    runInstructions library budget id passed.length underway =
      (.faulted (.budgetExceeded budget), (last.abort id (.budgetExceeded budget)).2) := by
  have whole := runInstructions_path path budget 0
  rw [Nat.add_zero] at whole
  rw [whole, runInstructions, if_pos present]

/-- **A turn is stopped because of the budget exactly if it has executed all instructions of the
budget**, none of them has given way or ended the turn, and its thread is still there. -/
theorem exhausted_iff :
    (runInstructions library budget id count underway).1.Exhausted ↔
      ∃ passed last, Path (GoesOn library id) underway passed last ∧ passed.length = count ∧
        last.state.threads.contains id = true := by
  constructor
  · intro exhausted
    induction count generalizing underway with
    | zero =>
      rw [runInstructions] at exhausted
      by_cases present : underway.state.threads.contains id = true
      · exact ⟨[], underway, .here underway, rfl, present⟩
      · rw [if_neg present] at exhausted
        exact absurd exhausted nofun
    | succ count inductionHypothesis =>
      obtain ⟨ending, after, other, ends⟩ | ⟨after, goes⟩ :=
        runInstructions_cases library id underway
      · rw [ends] at exhausted
        exact absurd exhausted other
      · rw [goes.runInstructions_succ] at exhausted
        obtain ⟨passed, last, path, rfl, present⟩ := inductionHypothesis exhausted
        exact ⟨after :: passed, last, .next goes path, rfl, present⟩
  · rintro ⟨passed, last, path, rfl, present⟩
    exact ⟨budget, congrArg Prod.fst (runInstructions_exhausted path present budget)⟩

/-- **A turn that is not stopped because of the budget comes to the same with a larger budget.** -/
theorem runInstructions_larger (enough : count ≤ more)
    (within : ¬ (runInstructions library budget id count underway).1.Exhausted) :
    runInstructions library larger id more underway =
      runInstructions library budget id count underway := by
  induction count generalizing underway more with
  | zero =>
    cases found : underway.state.threads.get? id with
    | none => rw [runInstructions_absent found, runInstructions_absent found]
    | some thread =>
      have present := Table.contains_of_get? found
      exact absurd (exhausted_iff.mpr ⟨[], underway, .here underway, rfl, present⟩) within
  | succ count inductionHypothesis =>
    obtain ⟨more, rfl⟩ := Nat.exists_eq_add_of_le' enough
    rw [← Nat.add_assoc] at enough ⊢
    obtain ⟨ending, after, _, ends⟩ | ⟨after, goes⟩ := runInstructions_cases library id underway
    · rw [ends, ends]
    · rw [goes.runInstructions_succ] at within
      rw [goes.runInstructions_succ, goes.runInstructions_succ]
      exact inductionHypothesis (Nat.le_of_succ_le_succ enough) within

end Underway
end Lockstep
