import Lockstep.Proofs.Thread.Budget
import Lockstep.Proofs.Thread.Leaves
import Lockstep.Proofs.Tick.Without

/-!
# Ticks with larger budgets

When no thread uses its budget up in a tick, the tick is the same with every larger budget: it
reports the same, traces the same, and ends in the same state (`Machine.runTick_larger`). Threads
share the state, the random numbers and what a tick gives to the outside, so this needs every
turn of the tick to come to the same, one after the other.

What happens to a thread that does use its budget up is said by `Underway.Spent`.
-/

set_option autoImplicit false

namespace Lockstep

/-! ## Turns that use their budget up -/

namespace Underway

/-- A turn has used up its budget. It has executed as many instructions as the settings allow, of
which none gave way or ended the thread, and then the thread was removed with a fault. -/
structure Spent (library : Library) (settings : Settings) (id : ThreadId) (underway : Underway)
    (outcome : TurnEnd × Underway) : Prop where
  ending : outcome.1 = .faulted (.budgetExceeded settings.turnBudget)
  executed : ∃ passed last, Path (GoesOn library id) underway passed last ∧
    passed.length = max settings.instructionBudget.toNat 1 ∧
    outcome.2 = (last.abort id (.budgetExceeded settings.turnBudget)).2
  removed : outcome.2.state.threads.get? id = none

variable {library : Library} {settings : Settings} {id : ThreadId} {underway : Underway}

theorem spent_of_exhausted
    (exhausted : (runTurn library settings.turnBudget id underway).1.Exhausted) :
    Spent library settings id underway (runTurn library settings.turnBudget id underway) := by
  obtain ⟨passed, last, path, count, present⟩ := exhausted_iff.mp exhausted
  have outcome := runInstructions_exhausted path present settings.turnBudget
  rw [count] at outcome
  rw [runTurn, outcome]
  exact ⟨rfl, ⟨passed, last, path, count.trans settings.toNat_turnBudget, rfl⟩,
    get?_removeThread last.state id⟩

end Underway

/-! ## Larger budgets -/

namespace Machine

/-- The machine with another budget. -/
def withBudget (machine : Machine) (budget : UInt32) : Machine :=
  { machine with settings := { machine.settings with instructionBudget := budget } }

variable {machine : Machine} {larger : UInt32}

theorem turnBudget_withBudget_le (more : machine.settings.instructionBudget ≤ larger) :
    machine.settings.turnBudget.toNat ≤ (machine.withBudget larger).settings.turnBudget.toNat := by
  rw [Settings.toNat_turnBudget, Settings.toNat_turnBudget]
  have most := UInt32.le_iff_toNat_le.mp more
  show max _ 1 ≤ max larger.toNat 1
  omega

/-- Commands do not depend on the budget. -/
theorem begin_withBudget (machine : Machine) (budget : UInt32) (commands : List SequencedCommand)
    (seed : UInt64) :
    (machine.withBudget budget).begin commands seed = machine.begin commands seed := by
  rw [begin, begin]
  refine congrArg (fun apply => commands.foldl apply (machine.dawn seed)) ?_
  funext underway command
  obtain ⟨seq, tick, client, action⟩ := command
  cases action <;> rfl

theorem runTurn_larger (more : machine.settings.instructionBudget ≤ larger) {id : ThreadId}
    {underway : Underway} (within : ¬
      (Underway.runTurn machine.library machine.settings.turnBudget id underway).1.Exhausted) :
    Underway.runTurn machine.library (machine.withBudget larger).settings.turnBudget id underway =
      Underway.runTurn machine.library machine.settings.turnBudget id underway :=
  Underway.runInstructions_larger (turnBudget_withBudget_le more) within

/-- Turns of which none uses up its budget come to the same with a larger one. -/
theorem runTurns_larger (more : machine.settings.instructionBudget ≤ larger) {ids : List ThreadId}
    {underway : Underway} {reversed : List FaultRecord}
    (within : ∀ record ∈ (machine.runTurns ids underway reversed).1,
      record.fault.label ≠ "budget_exceeded") :
    (machine.withBudget larger).runTurns ids underway reversed =
      machine.runTurns ids underway reversed := by
  induction ids generalizing underway reversed with
  | nil => rfl
  | cons id rest inductionHypothesis =>
    rw [runTurns_cons] at within
    rw [runTurns_cons, runTurns_cons]
    have first : Underway.runTurn machine.library (machine.withBudget larger).settings.turnBudget id
        underway = Underway.runTurn machine.library machine.settings.turnBudget id underway := by
      refine runTurn_larger more ?_
      rintro ⟨spent, ended⟩
      -- The fault of this turn would be one of the faults in the end.
      refine within ⟨id, .budgetExceeded spent⟩ ?_ rfl
      rw [runTurns_reversed, ended]
      exact List.mem_append_left _ (List.mem_reverse.mpr List.mem_cons_self)
    rw [show (machine.withBudget larger).library = machine.library from rfl, first]
    exact inductionHypothesis within

/-- A tick in which no thread uses up its budget is the same with a larger one. -/
theorem runTick_larger (more : machine.settings.instructionBudget ≤ larger)
    {commands : List SequencedCommand} {seed : UInt64}
    (within : ∀ record ∈ (machine.runTick commands seed).report.faults,
      record.fault.label ≠ "budget_exceeded") :
    (machine.withBudget larger).runTick commands seed =
      { machine.runTick commands seed with
        machine := (machine.runTick commands seed).machine.withBudget larger } := by
  have turns := runTurns_larger more within
  rw [runTick, runTick]
  dsimp only
  rw [begin_withBudget, turns]
  rfl

/-- **The budget only matters when it is hit.** Take a machine, and the same one with a larger
budget. A turn that is not stopped because of the smaller budget has the same end and leaves the
same behind with the larger one. A turn that is stopped has executed just as many instructions as
the budget allows, at least one, and its thread is removed, whatever its frames catch. A tick that
reports no turn as stopped is the same with the larger budget. -/
theorem withBudget_larger (more : machine.settings.instructionBudget ≤ larger) :
    (∀ id underway,
      let outcome := Underway.runTurn machine.library machine.settings.turnBudget id underway
      let generous := (machine.withBudget larger).settings.turnBudget
      (¬ outcome.1.Exhausted → Underway.runTurn machine.library generous id underway = outcome) ∧
        (outcome.1.Exhausted →
          Underway.Spent machine.library machine.settings id underway outcome)) ∧
    ∀ commands seed,
      let outcome := machine.runTick commands seed
      (∀ record ∈ outcome.report.faults, record.fault.label ≠ "budget_exceeded") →
        (machine.withBudget larger).runTick commands seed =
          { outcome with machine := outcome.machine.withBudget larger } :=
  ⟨fun _ _ => ⟨runTurn_larger more, Underway.spent_of_exhausted⟩,
    fun _ _ => runTick_larger more⟩

/-- A library with a behavior that catches the errors of another one, which calls a third one over
and over again. That one ends with its second instruction. -/
def spinLibrary : Library where
  behaviors := ((Table.empty.insert 300 ⟨300, "guard", 0, 0,
    [.ofOperand (.call ⟨301, Vector.replicate 4 0, ⟨1⟩⟩) targetTrue targetFalse]⟩).insert 301
      ⟨301, "spin", 0, 0, [.ofOperand (.call ⟨302, Vector.replicate 4 0, ⟨0⟩⟩) 0 0]⟩).insert 302
        ⟨302, "brief", 0, 0,
          [.ofOperand (.primitive (.sleep 0)) 1 1,
            .ofOperand (.primitive (.sleep 0)) targetTrue targetFalse]⟩

/-- With a budget of two instructions a cat ends with the last one that it may execute, so a larger
budget changes nothing. A dog is stopped, although one of its frames catches errors. -/
theorem withBudget_larger_spin :
    let settings : Settings := ⟨2, default⟩
    let cat := (history spinLibrary settings [.spawn .object "cat" ⟨some 302, [], ⟨0, 0⟩⟩]).machine
    let dog := (history spinLibrary settings [.spawn .object "dog" ⟨some 300, [], ⟨0, 0⟩⟩]).machine
    let ends := Underway.runTurn spinLibrary 2 ⟨⟨1⟩, 1⟩ (cat.dawn 7)
    let spins := Underway.runTurn spinLibrary 2 ⟨⟨1⟩, 1⟩ (dog.dawn 7)
    ends.1 = .completed true ∧
      Underway.runTurn spinLibrary 9 ⟨⟨1⟩, 1⟩ (cat.dawn 7) = ends ∧
      spins.1 = .faulted (.budgetExceeded 2) ∧
      Underway.Spent spinLibrary settings ⟨⟨1⟩, 1⟩ (dog.dawn 7) spins ∧
      (cat.runTick [] 7).report.faults = [] ∧
      (cat.withBudget 9).runTick [] 7 =
        { cat.runTick [] 7 with machine := (cat.runTick [] 7).machine.withBudget 9 } := by
  intro settings cat dog ends spins
  have completed : ends.1 = .completed true := by decide +kernel
  have stopped : spins.1 = .faulted (.budgetExceeded 2) := by decide +kernel
  have faultless : (cat.runTick [] 7).report.faults = [] := by decide +kernel
  have catMore : cat.settings.instructionBudget ≤ 9 := by decide +kernel
  have dogMore : dog.settings.instructionBudget ≤ 9 := by decide +kernel
  obtain ⟨catTurns, catTicks⟩ := withBudget_larger catMore
  have catTurn := (catTurns ⟨⟨1⟩, 1⟩ (cat.dawn 7)).1
    fun ⟨_, ended⟩ => absurd (completed.symm.trans ended) nofun
  have dogTurn := ((withBudget_larger dogMore).1 ⟨⟨1⟩, 1⟩ (dog.dawn 7)).2 ⟨2, stopped⟩
  have catTick := catTicks [] 7 fun record member =>
    absurd (faultless ▸ member) List.not_mem_nil
  exact ⟨completed, catTurn, stopped, dogTurn, faultless, catTick⟩

end Machine
end Lockstep
