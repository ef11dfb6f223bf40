import Mathlib.Data.List.Induction
import Lockstep.Tick

/-!
# Histories of machines

A machine starts empty. From there a host makes entities, removes them and runs ticks, in any
order and with any commands and seeds. A `History` is the machine after some of these operations
together with the trace that they left. What every operation keeps holds after every history
(`Machine.history_induction`).
-/

set_option autoImplicit false

namespace Lockstep

/-- What a host does with a machine. -/
inductive Operation where
  | spawn (kind : EntityKind) (name : String) (template : EntityTemplate)
  | despawn (id : EntityId)
  | tick (commands : List SequencedCommand) (seed : UInt64)

/-- A machine, and all that went into the trace up to now. -/
structure History where
  machine : Machine
  trace : List TraceEntry

/-- The history after one more operation. Removing an entity that is not there does nothing. -/
def History.extend (history : History) : Operation → History
  | .spawn kind name template =>
    { history with machine := (history.machine.spawn kind name template).2 }
  | .despawn id =>
    match history.machine.despawn id with
    | none => history
    | some (entries, machine) => ⟨machine, history.trace ++ entries⟩
  | .tick commands seed =>
    let outcome := history.machine.runTick commands seed
    ⟨outcome.machine, history.trace ++ outcome.trace⟩

namespace Machine

/-- The history of a machine that starts empty. -/
def history (library : Library) (settings : Settings) (operations : List Operation) : History :=
  operations.foldl History.extend ⟨Machine.new library settings, []⟩

variable {library : Library} {settings : Settings}

theorem history_concat (operations : List Operation) (operation : Operation) :
    history library settings (operations ++ [operation]) =
      (history library settings operations).extend operation := by
  rw [history, List.foldl_append, history]
  rfl

/-- What holds at the start and is kept by every operation holds after every history. -/
theorem history_induction {motive : List Operation → History → Prop}
    (start : motive [] ⟨Machine.new library settings, []⟩)
    (extend : ∀ operations operation history, motive operations history →
      motive (operations ++ [operation]) (history.extend operation))
    (operations : List Operation) : motive operations (history library settings operations) := by
  induction operations using List.reverseRecOn with
  | nil => exact start
  | append_singleton operations operation inductionHypothesis =>
    rw [history_concat]
    exact extend operations operation _ inductionHypothesis

end Machine

/-! ## What operations leave alone -/

theorem History.extend_library (history : History) (operation : Operation) :
    (history.extend operation).machine.library = history.machine.library := by
  cases operation with
  | spawn kind name template => rfl
  | tick commands seed => rfl
  | despawn id =>
    simp only [extend, Machine.despawn]
    cases history.machine.state.despawn id <;> rfl

theorem History.extend_settings (history : History) (operation : Operation) :
    (history.extend operation).machine.settings = history.machine.settings := by
  cases operation with
  | spawn kind name template => rfl
  | tick commands seed => rfl
  | despawn id =>
    simp only [extend, Machine.despawn]
    cases history.machine.state.despawn id <;> rfl

namespace Machine

variable {library : Library} {settings : Settings}

/-- A machine keeps its library. -/
theorem history_library (operations : List Operation) :
    (history library settings operations).machine.library = library :=
  history_induction (motive := fun _ history => history.machine.library = library) rfl
    (fun _ operation history same => (history.extend_library operation).trans same) operations

/-- A machine keeps its settings. -/
theorem history_settings (operations : List Operation) :
    (history library settings operations).machine.settings = settings :=
  history_induction (motive := fun _ history => history.machine.settings = settings) rfl
    (fun _ operation history same => (history.extend_settings operation).trans same) operations

end Machine
end Lockstep
