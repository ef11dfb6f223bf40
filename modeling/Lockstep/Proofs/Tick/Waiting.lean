import Mathlib.Data.List.TakeWhile
import Lockstep.Proofs.Thread.Executions
import Lockstep.Proofs.Thread.Kept
import Lockstep.Proofs.Thread.Waiting
import Lockstep.Proofs.Tick.Stuck

/-!
# Ticks in which a thread waits

In each tick a thread that waits has its turn (`Machine.atTurn`), which is one instruction: the
primitive gives way once more. Before that turn and after it the thread is let be, if its owner is
not removed (`Machine.keeps_atTurn`, `Machine.keeps_afterTurn`). So after the tick it has given way
one time more, and has not changed otherwise (`Stay.get?_runTick`).
-/

set_option autoImplicit false

namespace Lockstep

/-! ## The turn of a thread -/

namespace ThreadTable

/-- The threads that have their turns before one. -/
def before (threads : ThreadTable) (id : ThreadId) : List ThreadId :=
  threads.keys.takeWhile (· ≠ id)

variable {threads : ThreadTable} {id : ThreadId}

theorem not_mem_before (threads : ThreadTable) (id : ThreadId) : id ∉ threads.before id := by
  intro member
  simpa using List.mem_takeWhile_imp member

/-- A thread has its turn after them and before the rest. -/
theorem keys_eq_before (present : threads.contains id = true) :
    ∃ later, threads.keys = threads.before id ++ id :: later ∧ id ∉ later := by
  obtain ⟨earlier, later, split, notEarlier, notLater⟩ := Table.exists_keys_eq present
  have others : ∀ other ∈ earlier, decide (other ≠ id) = true := fun other member =>
    decide_eq_true fun same => notEarlier (same ▸ member)
  have first : threads.before id = earlier := by
    rw [before, split, List.takeWhile_append_of_pos others, List.takeWhile_cons_of_neg (by simp),
      List.append_nil]
  exact ⟨later, first ▸ split, notLater⟩

/-- When a thread is not there, all others have their turns before its own. -/
theorem before_of_absent (absent : ¬ threads.contains id = true) :
    threads.before id = threads.keys :=
  List.takeWhile_eq_self_iff.mpr fun _ member =>
    decide_eq_true fun same => absent (Table.mem_keys.mp (same ▸ member))

end ThreadTable

namespace Machine

/-- A tick when it is the turn of a thread. -/
def atTurn (machine : Machine) (commands : List SequencedCommand) (seed : UInt64)
    (id : ThreadId) : Underway :=
  let begun := machine.begin (SequencedCommand.sort commands) seed
  (ThreadTable.before begun.state.threads id).foldl machine.turn begun

/-- The instructions that a thread executes in a tick. -/
def executions (machine : Machine) (commands : List SequencedCommand) (seed : UInt64)
    (id : ThreadId) : List (Thread × Underway) :=
  Underway.executions machine.library id machine.settings.turnBudget.toNat
    (machine.atTurn commands seed id)

/-- The points that a tick passes through up to the turn of a thread. -/
def momentsBefore (machine : Machine) (commands : List SequencedCommand) (seed : UInt64)
    (id : ThreadId) : List Underway :=
  let ordered := SequencedCommand.sort commands
  let begun := machine.begin ordered seed
  ordered.scanl (Underway.applyCommand machine.library machine.settings) (machine.dawn seed) ++
    machine.turnMoments (ThreadTable.before begun.state.threads id) begun

variable {machine : Machine} {commands : List SequencedCommand} {seed : UInt64} {id : ThreadId}
  {threads : Nat}

theorem edited_atTurn (machine : Machine) (commands : List SequencedCommand) (seed : UInt64)
    (id : ThreadId) :
    (machine.begin (SequencedCommand.sort commands) seed).Edited 0 0
      (machine.atTurn commands seed id) := by
  rw [atTurn, ← runTurns_eq _ _ _ []]
  exact machine.edited_runTurns _ _ []

theorem mem_moments_of_mem_before {moment : Underway}
    (passed : moment ∈ machine.momentsBefore commands seed id) :
    moment ∈ machine.moments commands seed := by
  let begun := machine.begin (SequencedCommand.sort commands) seed
  obtain ⟨later, split⟩ : ThreadTable.before begun.state.threads id <+: begun.state.threads.keys :=
    List.takeWhile_prefix _
  obtain ⟨rest, more⟩ := machine.turnMoments_append (ThreadTable.before begun.state.threads id)
    later begun
  rw [split] at more
  rw [moments, more, ← List.append_assoc]
  exact List.mem_append_left rest passed

/-- The last of these points is the one where the turn begins. -/
theorem atTurn_mem_momentsBefore (machine : Machine) (commands : List SequencedCommand)
    (seed : UInt64) (id : ThreadId) :
    machine.atTurn commands seed id ∈ machine.momentsBefore commands seed id := by
  let begun := machine.begin (SequencedCommand.sort commands) seed
  have last := machine.getLast?_turnMoments (ThreadTable.before begun.state.threads id) begun []
  rw [runTurns_eq] at last
  refine List.mem_of_getLast? ?_
  rw [momentsBefore, List.getLast?_append, List.getLast?_scanl, Option.or_some]
  exact congrArg some last

section

variable (seed : UInt64)
  (elder : State.Elder id machine.state (SequencedCommand.mostThreads commands + threads))

include elder

theorem elder_begin :
    State.Elder id (machine.begin (SequencedCommand.sort commands) seed).state threads := by
  have edited := machine.edited_begin (SequencedCommand.sort commands) seed
  rw [SequencedCommand.mostThreads_sort] at edited
  exact edited.elder elder

/-- **Up to its turn a thread is let be**, as long as its owner is not removed. -/
theorem get?_atTurn
    (alive : ∀ moment ∈ machine.momentsBefore commands seed id,
      moment.state.entities.contains id.owner = true) :
    (machine.atTurn commands seed id).state.threads.get? id = machine.state.threads.get? id := by
  let ordered := SequencedCommand.sort commands
  have begun := elder_begin seed elder
  have others : State.Retains id (machine.begin ordered seed).state
      (machine.atTurn commands seed id).state :=
    turns_retain begun.sound (ThreadTable.not_mem_before _ id)
  rw [← SequencedCommand.mostThreads_sort] at elder
  have commanded := @Underway.keeps_commands machine.library machine.settings (machine.dawn seed) id
    threads ordered elder fun moment during => alive moment (List.mem_append_left _ during)
  exact (others.keeps (alive _ (machine.atTurn_mem_momentsBefore commands seed id))).trans commanded

end

section

variable (elder : State.Elder id (machine.begin (SequencedCommand.sort commands) seed).state threads)

include elder

theorem elder_runTick :
    State.Elder id (machine.runTick commands seed).machine.state threads := by
  let begun := machine.begin (SequencedCommand.sort commands) seed
  obtain ⟨_, changed, _⟩ := machine.edited_runTurns begun.state.threads.keys begun []
  exact (elder.still changed).still (.quiet (.tick _ (machine.state.tick + 1)))

/-- **After its turn a thread is let be** for the rest of the tick. -/
theorem keeps_afterTurn :
    State.Keeps id (machine.turn (machine.atTurn commands seed id) id).state
      (machine.runTick commands seed).machine.state := by
  let begun := machine.begin (SequencedCommand.sort commands) seed
  let turn := machine.turn (machine.atTurn commands seed id) id
  have dusk : machine.dusk commands seed = begun.state.threads.keys.foldl machine.turn begun :=
    runTurns_eq machine begun.state.threads.keys begun []
  have ended : State.Keeps id turn.state (machine.dusk commands seed).state := by
    by_cases present : begun.state.threads.contains id = true
    · obtain ⟨later, split, notLater⟩ := ThreadTable.keys_eq_before present
      have after : machine.dusk commands seed = later.foldl machine.turn turn := by
        rw [dusk, split, List.foldl_append, List.foldl_cons]
        rfl
      have sound : turn.state.ListsSound :=
        (Underway.edited_runTurn _ id _).listsSound
          ((machine.edited_atTurn commands seed id).listsSound elder.sound)
      exact after ▸ (turns_retain sound notLater).keeps
    · -- Then the thread has no turn, and all the others are over when it would be time for it.
      have before : machine.atTurn commands seed id = machine.dusk commands seed := by
        rw [dusk, atTurn, ThreadTable.before_of_absent present]
      have others := @turns_retain machine begun id elder.sound _ (mt Table.mem_keys.mp present)
      have absent : (machine.atTurn commands seed id).state.threads.get? id = none := by
        rw [before, dusk]
        obtain same | ⟨gone, _⟩ := others.thread
        · exact same.trans (Table.get?_of_not_contains present)
        · exact gone
      have nothing : turn = machine.atTurn commands seed id :=
        congrArg Prod.snd (Underway.runTurn_absent machine.settings.turnBudget absent)
      exact nothing ▸ before ▸ fun _ => rfl
  exact ended

end

end Machine

/-! ## Waiting -/

namespace Stay

variable {stay : Stay} {machine : Machine} {underway now : Underway} {times : Nat}

/-- A turn in which the thread gives way leaves it as it is, but that it has given way once more. -/
theorem get?_turn (of : stay.Of machine.library)
    (executes : (stay.thread times, now) ∈ Underway.executions machine.library stay.id
      machine.settings.turnBudget.toNat underway)
    (attended : stay.Attended now) (left : times < stay.span.toNat) :
    (machine.turn underway stay.id).state.threads.get? stay.id =
      some (stay.thread (times + 1)) := by
  obtain ⟨found, _⟩ := Underway.found_of_executes executes
  obtain ⟨yielded, later⟩ := step_yields of found attended left
  have turn := Underway.turn_executions machine.library machine.settings.turnBudget stay.id
    machine.settings.turnBudget.toNat underway
  have last := turn.eq_of_done executes (Prod.ext yielded rfl)
  rw [Machine.turn, Underway.runTurn, last]
  exact later

theorem get?_turn_of_attended (of : stay.Of machine.library)
    (found : underway.state.threads.get? stay.id = some (stay.thread times))
    (attended : stay.Attended underway) (left : times < stay.span.toNat) :
    (machine.turn underway stay.id).state.threads.get? stay.id =
      some (stay.thread (times + 1)) := by
  have first := Underway.head?_executions machine.library machine.settings.turnBudget_pos found
  exact get?_turn of (List.mem_of_mem_head? first) attended left

variable {commands : List SequencedCommand} {threads : Nat}

/-- **In a tick the thread gives way once**, and is not changed otherwise, if its owner is not
removed. -/
theorem get?_runTick (seed : UInt64) (of : stay.Of machine.library)
    (elder : State.Elder stay.id machine.state (SequencedCommand.mostThreads commands + threads))
    (found : machine.state.threads.get? stay.id = some (stay.thread times))
    (alive : ∀ moment ∈ machine.momentsBefore commands seed stay.id,
      moment.state.entities.contains stay.id.owner = true)
    (remains :
      (machine.runTick commands seed).machine.state.entities.contains stay.id.owner = true)
    (attended : stay.Attended (machine.atTurn commands seed stay.id))
    (left : times < stay.span.toNat) :
    (machine.runTick commands seed).machine.state.threads.get? stay.id =
      some (stay.thread (times + 1)) := by
  have still := (Machine.get?_atTurn seed elder alive).trans found
  exact (Machine.keeps_afterTurn (Machine.elder_begin seed elder) remains).trans
    (get?_turn_of_attended of still attended left)

/-- The tick in which the thread begins to wait is the first one in which it gives way. -/
theorem get?_runTick_of_begins {seed : UInt64} (of : stay.Of machine.library)
    (elder : State.Elder stay.id (machine.begin (SequencedCommand.sort commands) seed).state
      threads)
    (begins : (stay.thread 0, now) ∈ machine.executions commands seed stay.id)
    (remains :
      (machine.runTick commands seed).machine.state.entities.contains stay.id.owner = true)
    (attended : stay.Attended now) (some : 0 < stay.span.toNat) :
    (machine.runTick commands seed).machine.state.threads.get? stay.id =
      .some (stay.thread 1) :=
  (Machine.keeps_afterTurn elder remains).trans (get?_turn of begins attended some)

/-- The turn of the thread begins with the instruction that it waits at. -/
theorem goes_atTurn (seed : UInt64) (of : stay.Of machine.library)
    (elder : State.Elder stay.id machine.state (SequencedCommand.mostThreads commands + threads))
    (found : machine.state.threads.get? stay.id = some (stay.thread times))
    (alive : ∀ moment ∈ machine.momentsBefore commands seed stay.id,
      moment.state.entities.contains stay.id.owner = true) :
    (machine.executions commands seed stay.id).head? =
        some (stay.thread times, machine.atTurn commands seed stay.id) ∧
      stay.Goes machine.library times (machine.atTurn commands seed stay.id) := by
  have still := (Machine.get?_atTurn seed elder alive).trans found
  exact ⟨Underway.head?_executions machine.library machine.settings.turnBudget_pos still,
    goes of still⟩

end Stay
end Lockstep
