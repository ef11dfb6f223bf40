import Lockstep.Proofs.Machine.History
import Lockstep.Proofs.State.Edit
import Lockstep.Proofs.Thread.Budget
import Lockstep.Proofs.Thread.Leaves
import Lockstep.Proofs.Tick.Starts

/-!
# Threads between ticks

After every tick each thread is parked: its frames are nested, each at the call of the one on top of
it, and the innermost is in the middle of sleeping or animating (`Machine.runTick_parks`). Every
thread that lives when the commands of the tick have been applied has one turn in the tick, and
what that turn leaves of it stays as it is until the tick is over, or is removed.

Commands only remove threads or start new ones (`ThreadTable.Adds`), so threads stay nested up to
the first turn. Each turn spares the other threads, so what it leaves is still there at the end.
-/

set_option autoImplicit false

namespace Lockstep

/-! ## Threads that are started -/

/-- Every thread was there before, or it has just been started. -/
def ThreadTable.Adds (before after : ThreadTable) : Prop :=
  ∀ id thread, after.get? id = some thread →
    before.get? id = some thread ∨
      ∃ own root, root.catchErrors = false ∧ thread = Thread.new own root

/-- The frames of every thread are nested. -/
def ThreadTable.Nested (library : Library) (threads : ThreadTable) : Prop :=
  ∀ id thread, threads.get? id = some thread → thread.Nested library

namespace ThreadTable

variable {before middle after : ThreadTable}

theorem Shrinks.adds (shrinks : before.Shrinks after) : before.Adds after :=
  fun id thread held => .inl (shrinks id thread held)

theorem Adds.refl (threads : ThreadTable) : threads.Adds threads := (Shrinks.refl threads).adds

theorem Adds.trans (start : before.Adds middle) (rest : middle.Adds after) :
    before.Adds after := by
  intro id thread held
  rcases rest id thread held with earlier | fresh
  · exact start id thread earlier
  · exact .inr fresh

theorem Adds.nested {library : Library} (adds : before.Adds after)
    (nested : before.Nested library) : after.Nested library := by
  intro id thread held
  rcases adds id thread held with earlier | ⟨own, root, catchless, rfl⟩
  · exact nested id thread earlier
  · exact Thread.nested_new own root catchless

end ThreadTable

theorem State.Starts.adds {before after : State} {most : Nat} (starts : before.Starts after most) :
    before.threads.Adds after.threads := by
  cases starts with
  | nobody shrinks counter => exact shrinks.adds
  | somebody catchless threads counter =>
    intro other thread held
    rw [threads] at held
    rcases Table.eq_or_of_get?_insert held with rfl | earlier
    · exact .inr ⟨_, _, catchless, rfl⟩
    · exact .inl earlier

namespace Underway

theorem adds_commands (library : Library) (settings : Settings) (commands : List SequencedCommand)
    (underway : Underway) :
    underway.state.threads.Adds
      (commands.foldl (applyCommand library settings) underway).state.threads := by
  induction commands generalizing underway with
  | nil => exact .refl _
  | cons command rest inductionHypothesis =>
    rw [List.foldl_cons]
    exact (starts_applyCommand library settings underway command).adds.trans (inductionHypothesis _)

end Underway

namespace Machine

/-- What is under way after the turn of a thread. -/
def turn (machine : Machine) (underway : Underway) (id : ThreadId) : Underway :=
  (Underway.runTurn machine.library machine.settings.turnBudget id underway).2

theorem runTurns_eq (machine : Machine) (ids : List ThreadId) (underway : Underway)
    (reversed : List FaultRecord) :
    (machine.runTurns ids underway reversed).2 = ids.foldl machine.turn underway := by
  induction ids generalizing underway reversed with
  | nil => rfl
  | cons id rest inductionHypothesis =>
    rw [runTurns_cons, List.foldl_cons]
    exact inductionHypothesis _ _

section

variable {machine : Machine} {underway : Underway} {id : ThreadId}

/-- What is left of a thread after its turn. -/
theorem turn_leaves (nested : underway.state.threads.Nested machine.library) (id : ThreadId) :
    let turn := Underway.runTurn machine.library machine.settings.turnBudget id underway
    turn.1.Leaves machine.library (turn.2.state.threads.get? id) ∧
      ThreadTable.Spares id underway.state.threads turn.2.state.threads :=
  Underway.runTurn_leaves machine.settings.turnBudget (nested id)

theorem turn_parks (nested : underway.state.threads.Nested machine.library) {thread : Thread}
    (held : (machine.turn underway id).state.threads.get? id = some thread) :
    thread.Parked machine.library := by
  have left : TurnEnd.Leaves machine.library
      ((machine.turn underway id).state.threads.get? id) _ := (turn_leaves nested id).1
  rw [held] at left
  exact left.parked

theorem turn_nested (nested : underway.state.threads.Nested machine.library) (id : ThreadId) :
    (machine.turn underway id).state.threads.Nested machine.library := by
  intro other thread held
  by_cases same : other = id
  · subst same
    exact (turn_parks nested held).nested
  · exact nested other thread ((turn_leaves nested id).2 other thread same held)

theorem turns_nested (nested : underway.state.threads.Nested machine.library)
    (ids : List ThreadId) :
    (ids.foldl machine.turn underway).state.threads.Nested machine.library := by
  induction ids generalizing underway with
  | nil => exact nested
  | cons id rest inductionHypothesis => exact inductionHypothesis (turn_nested nested id)

theorem turn_spares (machine : Machine) (underway : Underway) (id : ThreadId) :
    ThreadTable.Spares id underway.state.threads (machine.turn underway id).state.threads :=
  Underway.spares_runTurn machine.settings.turnBudget id underway

/-- The turns of other threads leave a thread as it is, or remove it. -/
theorem turns_spare {ids : List ThreadId} (other : id ∉ ids) {thread : Thread}
    (held : (ids.foldl machine.turn underway).state.threads.get? id = some thread) :
    underway.state.threads.get? id = some thread := by
  induction ids generalizing underway with
  | nil => exact held
  | cons first rest inductionHypothesis =>
    have apart := List.ne_of_not_mem_cons other
    have later := List.not_mem_of_not_mem_cons other
    exact turn_spares machine underway first id thread apart (inductionHypothesis later held)

/-- A turn brings no thread back that was gone. -/
theorem turn_known (nested : underway.state.threads.Nested machine.library) (id : ThreadId)
    {other : ThreadId} (known : (machine.turn underway id).state.threads.contains other = true) :
    underway.state.threads.contains other = true := by
  obtain ⟨thread, held⟩ := Table.contains_iff.mp known
  by_cases same : other = id
  · subst same
    cases before : underway.state.threads.get? other with
    | none =>
      rw [turn, Underway.runTurn_absent _ before] at held
      exact absurd (before.symm.trans held) (by simp)
    | some earlier => exact Table.contains_of_get? before
  · exact Table.contains_of_get? ((turn_leaves nested id).2 other thread same held)

theorem turns_known (nested : underway.state.threads.Nested machine.library)
    (ids : List ThreadId) {other : ThreadId}
    (known : (ids.foldl machine.turn underway).state.threads.contains other = true) :
    underway.state.threads.contains other = true := by
  induction ids generalizing underway with
  | nil => exact known
  | cons id rest inductionHypothesis =>
    exact turn_known nested id (inductionHypothesis (turn_nested nested id) known)

end

/-- A thread has one turn in a tick. What the turn leaves of it stays as it is until the tick is
over, or is removed. -/
def TakesTurn (machine : Machine) (begun : Underway) (id : ThreadId) : Prop :=
  ∃ earlier later, begun.state.threads.keys = earlier ++ id :: later ∧
    id ∉ earlier ∧ id ∉ later ∧
      let turn := Underway.runTurn machine.library machine.settings.turnBudget id
        (machine.runTurns earlier begun []).2
      let ended := (machine.runTurns begun.state.threads.keys begun []).2
      turn.1.Leaves machine.library (turn.2.state.threads.get? id) ∧
        ∀ thread, ended.state.threads.get? id = some thread →
          turn.2.state.threads.get? id = some thread

/-- Every thread has its turn. -/
theorem takesTurn {machine : Machine} {begun : Underway} {id : ThreadId}
    (nested : begun.state.threads.Nested machine.library)
    (live : begun.state.threads.contains id = true) : machine.TakesTurn begun id := by
  obtain ⟨earlier, later, split, notEarlier, notLater⟩ := Table.exists_keys_eq live
  have before := turns_nested nested earlier
  refine ⟨earlier, later, split, notEarlier, notLater, ?_⟩
  rw [runTurns_eq, runTurns_eq, split, List.foldl_append, List.foldl_cons]
  exact ⟨(turn_leaves before id).1, fun thread held => turns_spare notLater held⟩

/-- What the turn of a thread leaves of it is parked. -/
theorem TakesTurn.parked {machine : Machine} {begun : Underway} {id : ThreadId} {thread : Thread}
    (takesTurn : machine.TakesTurn begun id)
    (held : (machine.runTurns begun.state.threads.keys begun []).2.state.threads.get? id =
      some thread) : thread.Parked machine.library := by
  obtain ⟨earlier, later, split, _, _, leaves, stays⟩ := takesTurn
  rw [stays thread held] at leaves
  exact leaves.parked

/-! ## Ticks -/

variable {library : Library} {settings : Settings}

theorem begin_nested {machine : Machine} (nested : machine.state.threads.Nested machine.library)
    (commands : List SequencedCommand) (seed : UInt64) :
    (machine.begin commands seed).state.threads.Nested machine.library :=
  (Underway.adds_commands machine.library machine.settings commands
    ⟨machine.state, Random.Stream.ofSeed seed, Effects.none⟩).nested nested

theorem runTick_nested {machine : Machine}
    (nested : machine.state.threads.Nested machine.library) (commands : List SequencedCommand)
    (seed : UInt64) :
    (machine.runTick commands seed).machine.state.threads.Nested machine.library := by
  have begun := begin_nested nested (SequencedCommand.sort commands) seed
  have ended := turns_nested begun
    (machine.begin (SequencedCommand.sort commands) seed).state.threads.keys
  rw [← runTurns_eq _ _ _ []] at ended
  exact ended

/-- Threads are nested after every history. -/
theorem history_nested (operations : List Operation) :
    (history library settings operations).machine.state.threads.Nested library := by
  have kept : (history library settings operations).machine.library = library ∧
      (history library settings operations).machine.state.threads.Nested library := by
    refine history_induction (motive := fun _ history => history.machine.library = library ∧
      history.machine.state.threads.Nested library) ⟨rfl, ?_⟩ ?_ operations
    · intro id thread held
      exact absurd held (by simp [Machine.new, State.empty])
    · rintro operations operation history ⟨same, nested⟩
      refine ⟨(history.extend_library operation).trans same, ?_⟩
      cases operation with
      | spawn kind name template =>
        exact (history.machine.state.starts_spawn kind name template).adds.nested nested
      | despawn id =>
        rw [History.extend, Machine.despawn]
        cases gone : history.machine.state.despawn id with
        | none => exact nested
        | some removed => exact (State.shrinks_despawn gone).adds.nested nested
      | tick commands seed =>
        rw [← same] at nested ⊢
        exact runTick_nested nested commands seed
  exact kept.2

/-- **After every tick each thread is parked**, and every thread that lived when the commands had
been applied has had its turn. -/
theorem runTick_parks (operations : List Operation) (commands : List SequencedCommand)
    (seed : UInt64) :
    let machine := (history library settings operations).machine
    let begun := machine.begin (SequencedCommand.sort commands) seed
    let after := (machine.runTick commands seed).machine.state.threads
    (∀ id thread, after.get? id = some thread →
        thread.Parked library ∧ begun.state.threads.contains id = true) ∧
      ∀ id ∈ begun.state.threads.keys, machine.TakesTurn begun id := by
  intro machine begun after
  have kept : machine.library = library := history_library operations
  have nested : begun.state.threads.Nested machine.library :=
    begin_nested (kept ▸ history_nested operations) _ seed
  have turns (id : ThreadId) (live : begun.state.threads.contains id = true) :
      machine.TakesTurn begun id := takesTurn nested live
  refine ⟨?_, fun id member => turns id (Table.mem_keys.mp member)⟩
  intro id thread held
  have live : begun.state.threads.contains id = true := by
    refine turns_known nested begun.state.threads.keys ?_
    rw [← runTurns_eq _ _ _ []]
    exact Table.contains_of_get? held
  exact ⟨kept ▸ (turns id live).parked held, live⟩

/-- A library with two behaviors: the first calls the second, which sleeps for three ticks. -/
def napLibrary : Library where
  behaviors := (Table.empty.insert 300 ⟨300, "nap", 0, 0,
    [.ofOperand (.call ⟨301, Vector.replicate 4 0, ⟨1⟩⟩) targetTrue targetFalse]⟩).insert 301
      ⟨301, "doze", 0, 0, [.ofOperand (.primitive (.sleep 3)) targetTrue targetFalse]⟩

/-- Something that naps is asleep in its second frame after the first tick. -/
theorem runTick_parks_nap :
    let operations : List Operation := [.spawn .object "cat" ⟨some 300, [], ⟨0, 0⟩⟩]
    let machine := (history napLibrary ⟨10, default⟩ operations).machine
    ∃ thread, (machine.runTick [] 7).machine.state.threads.get? ⟨⟨1⟩, 1⟩ = some thread ∧
      thread.frames.length = 2 ∧ thread.Parked napLibrary := by
  intro operations machine
  have asleep : ((machine.runTick [] 7).machine.state.threads.get? ⟨⟨1⟩, 1⟩).map
      (fun thread => thread.frames.length) = some 2 := by decide +kernel
  obtain ⟨thread, held, depth⟩ := Option.map_eq_some_iff.mp asleep
  exact ⟨thread, held, depth, ((runTick_parks operations [] 7).1 _ thread held).1⟩

end Machine
end Lockstep
