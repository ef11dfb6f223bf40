import Lockstep.Proofs.Path
import Lockstep.Proofs.Tick.Moments

/-!
# Small steps of a tick

A tick goes from the state before it to the one after it in small steps, and its moments are the
states in between (`Machine.tick_path`). A step is a command that is applied, an instruction of a
thread, the removal of a thread that has used up its budget, or the end of the tick
(`State.Advances`). So what all of these keep holds at every moment of a tick and after it.
-/

set_option autoImplicit false

namespace Lockstep

/-- One step of a tick. -/
inductive State.Advances (library : Library) (settings : Settings) : State → State → Prop where
  | rest (state : State) : Advances library settings state state
  | command (underway : Underway) (command : SequencedCommand) :
      Advances library settings underway.state
        (underway.applyCommand library settings command).state
  | instruct {underway : Underway} {id : ThreadId} {thread : Thread} :
      underway.state.threads.get? id = some thread →
        Advances library settings underway.state
          (Underway.step library id thread underway).2.state
  | stop (state : State) (id : ThreadId) : Advances library settings state (state.removeThread id)
  | finish (state : State) (tick : UInt64) :
      Advances library settings state
        { state with sounds := state.sounds.refresh state.entities, tick }

namespace Underway

variable {library : Library} {settings : Settings}

/-- From the state before some commands through those after each of them. -/
theorem commands_path (commands : List SequencedCommand) {before : State} {underway : Underway}
    (advances : before.Advances library settings underway.state) :
    Path (State.Advances library settings) before
      ((commands.scanl (applyCommand library settings) underway).map Underway.state)
      (commands.foldl (applyCommand library settings) underway).state := by
  induction commands generalizing before underway with
  | nil => exact .one advances
  | cons command rest inductionHypothesis =>
    rw [List.scanl_cons, List.map_cons, List.foldl_cons]
    exact .next advances (inductionHypothesis (.command underway command))

/-- From the state before a turn through those after each instruction to the one after the turn. -/
theorem instructions_path (budget : UInt32) (id : ThreadId) (count : Nat) (underway : Underway) :
    Path (State.Advances library settings) underway.state
      ((instructionMoments library id count underway).map Underway.state ++
        [(runInstructions library budget id count underway).2.state])
      (runInstructions library budget id count underway).2.state := by
  induction count generalizing underway with
  | zero =>
    rw [instructionMoments, runInstructions, List.map_nil, List.nil_append]
    split
    · exact .one (.stop underway.state id)
    · exact .one (.rest underway.state)
  | succ remaining inductionHypothesis =>
    cases found : underway.state.threads.get? id with
    | none =>
      simp only [instructionMoments, runInstructions, found, List.map_nil, List.nil_append]
      exact .one (.rest underway.state)
    | some thread =>
      have advances : underway.state.Advances library settings _ := .instruct found
      rcases stepped : step library id thread underway with ⟨flow, after⟩
      rw [stepped] at advances
      cases flow with
      | next =>
        simp only [instructionMoments, runInstructions, found, stepped, List.map_cons,
          List.cons_append]
        exact .next advances (inductionHypothesis after)
      | done ending =>
        simp only [instructionMoments, runInstructions, found, stepped, List.map_cons,
          List.map_nil, List.cons_append, List.nil_append]
        exact .next advances (.one (.rest after.state))

end Underway

namespace Machine

theorem begin_path (machine : Machine) (commands : List SequencedCommand) (seed : UInt64) :
    Path (State.Advances machine.library machine.settings) machine.state
      ((commands.scanl (Underway.applyCommand machine.library machine.settings)
        (machine.dawn seed)).map Underway.state)
      (machine.begin commands seed).state :=
  @Underway.commands_path _ _ commands machine.state (machine.dawn seed) (.rest machine.state)

theorem turns_path (machine : Machine) (ids : List ThreadId) (underway : Underway)
    (reversed : List FaultRecord) :
    Path (State.Advances machine.library machine.settings) underway.state
      ((machine.turnMoments ids underway).map Underway.state)
      (machine.runTurns ids underway reversed).2.state := by
  induction ids generalizing underway reversed with
  | nil => exact .here _
  | cons id rest inductionHypothesis =>
    have turn : Path (State.Advances machine.library machine.settings) underway.state _
        (Underway.runTurn machine.library machine.settings.turnBudget id underway).2.state :=
      Underway.instructions_path machine.settings.turnBudget id _ underway
    rw [turnMoments, runTurns_cons, List.map_append, List.map_cons, List.append_cons]
    exact turn.trans (inductionHypothesis _ _)

/-- **A tick leads through its moments** to the state after it. -/
theorem tick_path (machine : Machine) (commands : List SequencedCommand) (seed : UInt64) :
    Path (State.Advances machine.library machine.settings) machine.state
      ((machine.moments commands seed).map Underway.state ++
        [(machine.runTick commands seed).machine.state])
      (machine.runTick commands seed).machine.state := by
  have turns := machine.turns_path
    (machine.begin (SequencedCommand.sort commands) seed).state.threads.keys
    (machine.begin (SequencedCommand.sort commands) seed) []
  have ended : State.Advances machine.library machine.settings (machine.dusk commands seed).state
      (machine.runTick commands seed).machine.state := .finish _ (machine.state.tick + 1)
  rw [moments, List.map_append, List.append_assoc]
  exact (machine.begin_path _ seed).trans (turns.trans (.one ended))

end Machine
end Lockstep
