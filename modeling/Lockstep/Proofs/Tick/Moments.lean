import Lockstep.Proofs.Table.Keys
import Lockstep.Proofs.Tick.Edited

/-!
# Moments of a tick

`Machine.moments` lists the points that a tick passes through, first one first: before its first
command, after each command, after each instruction of each turn, and after each turn. The last of
them is the tick as it is before the index of sounds is refreshed (`Machine.getLast?_moments`). What
holds at all of them holds in the middle of a tick too, and even in the middle of a turn.
-/

set_option autoImplicit false

namespace Lockstep

namespace Underway

/-- The points that a turn of at most so many instructions passes through, one after each
instruction. -/
def instructionMoments (library : Library) (id : ThreadId) : Nat → Underway → List Underway
  | 0, _ => []
  | remaining + 1, underway =>
    match underway.state.threads.get? id with
    | none => []
    | some thread =>
      match step library id thread underway with
      | (.next, after) => after :: instructionMoments library id remaining after
      | (.done _, after) => [after]

variable {library : Library}

/-- A turn ends where its last instruction ends, unless it takes too many of them. -/
theorem runInstructions_end (budget : UInt32) (id : ThreadId) (count : Nat)
    (underway : Underway) :
    let last := ((instructionMoments library id count underway).getLast?).getD underway
    (runInstructions library budget id count underway).2 = last ∨
      (runInstructions library budget id count underway).2 =
        (last.abort id (.budgetExceeded budget)).2 := by
  induction count generalizing underway with
  | zero =>
    rw [runInstructions, instructionMoments]
    split
    · exact .inr rfl
    · exact .inl rfl
  | succ remaining inductionHypothesis =>
    cases found : underway.state.threads.get? id with
    | none =>
      simp only [runInstructions, instructionMoments, found]
      exact .inl rfl
    | some thread =>
      rcases stepped : step library id thread underway with ⟨flow, after⟩
      cases flow with
      | done ending =>
        simp only [runInstructions, instructionMoments, found, stepped]
        exact .inl rfl
      | next =>
        simp only [runInstructions, instructionMoments, found, stepped, List.getLast?_cons,
          Option.getD_some]
        exact inductionHypothesis after

/-- The points that a turn passes through are those after the instructions that it executes. -/
theorem instructionMoments_eq (id : ThreadId) (count : Nat) (underway : Underway) :
    instructionMoments library id count underway =
      (executions library id count underway).map fun executed =>
        (step library id executed.1 executed.2).2 := by
  induction count generalizing underway with
  | zero => rfl
  | succ remaining inductionHypothesis =>
    cases found : underway.state.threads.get? id with
    | none => simp only [instructionMoments, executions, found, List.map_nil]
    | some thread =>
      rcases stepped : step library id thread underway with ⟨flow, after⟩
      cases flow with
      | next =>
        simp only [instructionMoments, executions, found, stepped, List.map_cons]
        rw [inductionHypothesis after]
      | done ending =>
        simp only [instructionMoments, executions, found, stepped, List.map_cons, List.map_nil]

end Underway

namespace Machine

/-- The points that the turns of some threads pass through: after each instruction, and after each
turn. -/
def turnMoments (machine : Machine) : List ThreadId → Underway → List Underway
  | [], _ => []
  | id :: rest, underway =>
    let budget := machine.settings.turnBudget
    let after := (Underway.runTurn machine.library budget id underway).2
    Underway.instructionMoments machine.library id budget.toNat underway ++
      after :: machine.turnMoments rest after

/-- The points that a tick passes through, first one first. -/
def moments (machine : Machine) (commands : List SequencedCommand) (seed : UInt64) :
    List Underway :=
  let ordered := SequencedCommand.sort commands
  let begun := machine.begin ordered seed
  ordered.scanl (Underway.applyCommand machine.library machine.settings) (machine.dawn seed) ++
    machine.turnMoments begun.state.threads.keys begun

/-- When some of the commands of a tick have been applied, that is a moment of the tick. -/
theorem begin_mem_moments {machine : Machine} {commands earlier later : List SequencedCommand}
    (split : SequencedCommand.sort commands = earlier ++ later) (seed : UInt64) :
    machine.begin earlier seed ∈ machine.moments commands seed := by
  have reached : ((earlier ++ later).scanl (Underway.applyCommand machine.library machine.settings)
      (machine.dawn seed))[earlier.length]? = some (machine.begin earlier seed) := by
    rw [List.getElem?_scanl, List.take_left]
    exact if_pos (by simp)
  rw [moments, split]
  exact List.mem_append_left _ (List.mem_of_getElem? reached)

/-- The first turns pass through the first points. -/
theorem turnMoments_append (machine : Machine) (ids later : List ThreadId) (underway : Underway) :
    ∃ rest, machine.turnMoments (ids ++ later) underway =
      machine.turnMoments ids underway ++ rest := by
  induction ids generalizing underway with
  | nil => exact ⟨_, rfl⟩
  | cons id ids inductionHypothesis =>
    obtain ⟨rest, same⟩ := inductionHypothesis
      (Underway.runTurn machine.library machine.settings.turnBudget id underway).2
    refine ⟨rest, ?_⟩
    rw [List.cons_append, turnMoments, same, turnMoments, List.append_assoc, List.cons_append]

theorem getLast?_turnMoments (machine : Machine) (ids : List ThreadId) (underway : Underway)
    (reversed : List FaultRecord) :
    ((machine.turnMoments ids underway).getLast?).getD underway =
      (machine.runTurns ids underway reversed).2 := by
  induction ids generalizing underway reversed with
  | nil => rfl
  | cons id rest inductionHypothesis =>
    rw [turnMoments, List.getLast?_append, List.getLast?_cons, Option.some_or, Option.getD_some,
      runTurns_cons]
    exact inductionHypothesis _ _

/-- The last moment of a tick is its end. -/
theorem getLast?_moments (machine : Machine) (commands : List SequencedCommand) (seed : UInt64) :
    (machine.moments commands seed).getLast? = some (machine.dusk commands seed) := by
  rw [moments, List.getLast?_append, List.getLast?_scanl, Option.or_some, dusk]
  exact congrArg some (machine.getLast?_turnMoments _ _ [])

end Machine
end Lockstep
