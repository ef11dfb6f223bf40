import Lockstep.Proofs.Machine.Chronicle
import Lockstep.Proofs.State.Births
import Lockstep.Proofs.Thread.Parts
import Lockstep.Proofs.Thread.Stuck
import Lockstep.Proofs.Tick.Parked
import Lockstep.Proofs.Tick.Without

/-!
# Ticks with a stuck thread

A thread that fails at the first instruction of its turn is not missed: a tick ends in the same
state when the thread is removed before it, and tells clients the same, but for the record of the
fault (`Machine.runTick_stuck`). That is so wherever the thread comes in the order of turns, and
also when it goes before its turn together with its owner, in which case there is no record of it.

The commands and the turns before that of the stuck thread do not depend on it, so they leave it
stuck or take it away. Its own turn removes it, which is to take it out of a state with sound lists,
and adds a note to the trace. So in the turns after it, it is gone in both ticks, and these turns do
not depend on what has been traced.
-/

set_option autoImplicit false

namespace Lockstep

namespace Underway

variable {underway : Underway} {id : ThreadId}

/-- A thread that is gone cannot be taken out once more. -/
theorem without_eq_self (sound : underway.state.ListsSound)
    (absent : underway.state.threads.get? id = none) : underway.without id [] = underway := by
  rw [without, sound.without_eq_self absent, Effects.onto_nil]

/-- The threads before and after one, which alone are left when that one is taken out. -/
theorem keys_without (underway : Underway)
    (present : underway.state.threads.contains id = true) :
    ∃ earlier later, underway.state.threads.keys = earlier ++ id :: later ∧ id ∉ earlier ∧
      id ∉ later ∧ (underway.without id []).state.threads.keys = earlier ++ later := by
  obtain ⟨earlier, later, split, notEarlier, notLater⟩ := Table.exists_keys_eq present
  have kept (ids : List ThreadId) (absent : id ∉ ids) : ids.filter (· ≠ id) = ids :=
    List.filter_eq_self.mpr fun other member => decide_eq_true fun same => absent (same ▸ member)
  refine ⟨earlier, later, split, notEarlier, notLater, ?_⟩
  refine (Table.keys_erase underway.state.threads id).trans ?_
  rw [split, List.filter_append, List.filter_cons_of_neg (by simp), kept earlier notEarlier,
    kept later notLater]

/-- Nothing has been traced yet. -/
def untraced (underway : Underway) : Underway :=
  { underway with effects := { underway.effects with trace := [] } }

theorem without_untraced (underway : Underway) (id : ThreadId) :
    underway.without id [] = underway.untraced.without id underway.effects.trace := by
  rw [without, Effects.onto_nil]
  rfl

/-- A thread that fails is taken out, and leaves a note. -/
theorem abort_eq_without (sound : underway.state.ListsSound) (id : ThreadId)
    (fault : ThreadFault) : ∃ note, (underway.abort id fault).2 =
      underway.untraced.without id (note :: underway.effects.trace) := by
  refine ⟨.note .warn ("thread " ++ id.text ++ " aborted: " ++ fault.message), ?_⟩
  rw [abort, sound.removeThread_eq]
  rfl

end Underway

/-! ## Turns -/

/-- Some turns that came to the same, but for the record of a fault, which only the second ones may
have. They need not have traced the same. -/
structure Underway.AlikeBut (record : FaultRecord)
    (without outcome : List FaultRecord × Underway) : Prop where
  state : without.2.state = outcome.2.state
  events : without.2.effects.events = outcome.2.effects.events
  notices : without.2.effects.notices = outcome.2.effects.notices
  faults : ∃ sooner later, without.1 = sooner ++ later ∧
    (outcome.1 = sooner ++ later ∨ outcome.1 = sooner ++ record :: later)

namespace Underway.AlikeBut

variable {record : FaultRecord}

theorem refl (outcome : List FaultRecord × Underway) : AlikeBut record outcome outcome :=
  ⟨rfl, rfl, rfl, outcome.1, [], (List.append_nil _).symm, .inl (List.append_nil _).symm⟩

/-- There were the same faults before. -/
theorem prepend {without outcome : List FaultRecord × Underway}
    (alike : AlikeBut record without outcome) (faults : List FaultRecord) :
    AlikeBut record (faults ++ without.1, without.2) (faults ++ outcome.1, outcome.2) := by
  obtain ⟨state, events, notices, sooner, later, alone, together⟩ := alike
  refine ⟨state, events, notices, faults ++ sooner, later, ?_, ?_⟩
  · rw [alone, List.append_assoc]
  · rw [List.append_assoc, List.append_assoc]
    exact together.imp (congrArg (faults ++ ·)) (congrArg (faults ++ ·))

end Underway.AlikeBut

namespace Machine

variable {machine : Machine} {id : ThreadId} {fault : ThreadFault}

/-- The turn of a stuck thread, and those after it, with and without the thread. If it is gone by
then it has no turn, and otherwise there is a record of the fault. -/
theorem runTurns_stuck {underway : Underway} (sound : underway.state.ListsSound)
    (stuck : ∀ thread, underway.state.threads.get? id = some thread →
      thread.Stuck machine.library fault) {later : List ThreadId} (other : id ∉ later) :
    Underway.AlikeBut ⟨id, fault⟩ (machine.runTurns later (underway.without id []) [])
      (machine.runTurns (id :: later) underway []) := by
  rw [runTurns_cons]
  cases found : underway.state.threads.get? id with
  | none =>
    rw [Underway.runTurn_absent _ found, Underway.without_eq_self sound found]
    exact .refl _
  | some own =>
    obtain ⟨note, aborted⟩ := Underway.abort_eq_without sound id fault
    rw [Underway.runTurn_stuck machine.settings.turnBudget_pos found (stuck own found)]
    dsimp only
    -- What is left are the turns of the others, from one state but after different traces.
    rw [aborted, Underway.without_untraced, runTurns_without other, runTurns_without other,
      runTurns_reversed _ _ _ (_ ++ _)]
    exact ⟨rfl, rfl, rfl, [], _, rfl, .inr rfl⟩

/-- All turns of a tick, and the faults in them. -/
def turns (machine : Machine) (begun : Underway) : List FaultRecord × Underway :=
  machine.runTurns begun.state.threads.keys begun []

/-- The turns of a tick, with and without a thread that is stuck. -/
theorem turns_without {begun : Underway}
    (sound : ∀ ids, (machine.runTurns ids begun []).2.state.ListsSound)
    (stuck : ∀ thread, begun.state.threads.get? id = some thread →
      thread.Stuck machine.library fault) :
    Underway.AlikeBut ⟨id, fault⟩ (machine.turns (begun.without id [])) (machine.turns begun) := by
  by_cases present : begun.state.threads.contains id = true
  · obtain ⟨earlier, later, split, notEarlier, notLater, keys⟩ := begun.keys_without present
    let mid := machine.runTurns earlier begun []
    have start : machine.runTurns earlier (begun.without id []) [] = (mid.1, mid.2.without id []) :=
      runTurns_without notEarlier begun []
    have still : ∀ thread, mid.2.state.threads.get? id = some thread →
        thread.Stuck machine.library fault := by
      intro thread found
      rw [show mid.2 = earlier.foldl machine.turn begun from runTurns_eq ..] at found
      exact stuck thread (turns_spare notEarlier found)
    rw [turns, turns, keys, split, runTurns_append, runTurns_append, start]
    exact (runTurns_stuck (sound earlier) still notLater).prepend mid.1
  · have same : begun.without id [] = begun :=
      Underway.without_eq_self (sound []) (Table.get?_of_not_contains present)
    rw [same]
    exact .refl _

/-- Turns depend on the tick that is under way, and not on the state before it. -/
theorem runTurns_state (machine : Machine) (start : State) (ids : List ThreadId)
    (underway : Underway) (reversed : List FaultRecord) :
    ({ machine with state := start } : Machine).runTurns ids underway reversed =
      machine.runTurns ids underway reversed := by
  induction ids generalizing underway reversed with
  | nil => rfl
  | cons id rest inductionHypothesis =>
    rw [runTurns_cons, runTurns_cons]
    exact inductionHypothesis _ _

end Machine

/-! ## Ticks -/

/-- Two ticks that are alike, but for the record of a fault, which only the second one may have. -/
structure TickOutcome.AlikeBut (record : FaultRecord) (without outcome : TickOutcome) : Prop where
  machine : without.machine = outcome.machine
  stateHash : without.report.stateHash = outcome.report.stateHash
  commands : without.report.commands = outcome.report.commands
  events : without.report.events = outcome.report.events
  notices : without.report.notices = outcome.report.notices
  avatars : without.report.avatars = outcome.report.avatars
  faults : ∃ sooner later, without.report.faults = sooner ++ later ∧
    (outcome.report.faults = sooner ++ later ∨
      outcome.report.faults = sooner ++ record :: later)

namespace Machine

variable {machine : Machine} {commands : List SequencedCommand} {seed : UInt64}

/-- Ticks from two states are alike when their turns are. -/
theorem alikeBut_of_turns {start : State} {record : FaultRecord}
    (tick : start.tick = machine.state.tick)
    (snapshots : start.entities.snapshots = machine.state.entities.snapshots)
    (alike : let other : Machine := { machine with state := start }
      Underway.AlikeBut record (other.turns (other.begin (SequencedCommand.sort commands) seed))
        (machine.turns (machine.begin (SequencedCommand.sort commands) seed))) :
    TickOutcome.AlikeBut record (runTick { machine with state := start } commands seed)
      (machine.runTick commands seed) := by
  obtain ⟨state, events, notices, faults⟩ := alike
  let alone := (runTick { machine with state := start } commands seed).machine
  let together := (machine.runTick commands seed).machine
  have after : alone.state = together.state := by
    let close (tick : UInt64) (ended : State) : State :=
      { ended with sounds := ended.sounds.refresh ended.entities, tick := tick + 1 }
    exact congrArg₂ close tick state
  constructor
  case machine => exact congrArg (Machine.mk machine.library machine.settings) after
  case stateHash => exact congrArg State.hash after
  case commands => rfl
  case events => exact congrArg List.reverse events
  case notices => exact congrArg List.reverse notices
  case avatars =>
    show alone.state.entities.snapshotsSince start.entities.snapshots =
      together.state.entities.snapshotsSince machine.state.entities.snapshots
    rw [after, snapshots]
  case faults => exact faults

/-- A tick without a thread that is stuck. -/
theorem runTick_without {id : ThreadId} {fault : ThreadFault} (sound : machine.state.ListsSound)
    (antedates : State.Antedates id machine.state (SequencedCommand.mostThreads commands))
    (stuck : ∀ thread, machine.state.threads.get? id = some thread →
      thread.Stuck machine.library fault) :
    TickOutcome.AlikeBut ⟨id, fault⟩
      (runTick { machine with state := machine.state.without id } commands seed)
      (machine.runTick commands seed) := by
  refine alikeBut_of_turns rfl (EntityTable.snapshots_unlist machine.state.entities id) ?_
  intro other
  let begun := machine.begin (SequencedCommand.sort commands) seed
  rw [← SequencedCommand.mostThreads_sort commands] at antedates
  have alone : other.begin (SequencedCommand.sort commands) seed = begun.without id [] :=
    Underway.commands_without _ (machine.dawn seed) antedates
  have turns : other.turns (begun.without id []) = machine.turns (begun.without id []) :=
    machine.runTurns_state _ _ _ _
  rw [alone, turns]
  refine turns_without ?_ ?_
  · exact fun ids => (machine.edited_turns commands seed ids).listsSound sound
  · exact fun thread found => stuck thread (Underway.commands_spare _ antedates found)

/-- **A stuck thread is as if it had never been there.** Whatever has happened to a machine, and
whatever library it has now: if a thread cannot execute its instruction and nothing catches that, a
tick leads to the same state without the thread, and tells clients the same. The lists of faults are
the same, but for one record of this fault at most. -/
theorem runTick_stuck {origin library : Library} {own settings : Settings}
    {happenings : List Happening} {commands : List SequencedCommand} {id : ThreadId}
    {thread : Thread} {fault : ThreadFault}
    (packable : (Chronicle.new origin own).SnapshotsPackable happenings)
    (room : (starts (chronicle origin own happenings).passed).length +
      SequencedCommand.mostThreads commands < 2 ^ 64)
    (live : (chronicle origin own happenings).machine.state.threads.get? id = some thread)
    (stuck : thread.Stuck library fault) (seed : UInt64) :
    let state := (chronicle origin own happenings).machine.state
    TickOutcome.AlikeBut ⟨id, fault⟩
      ((Machine.mk library settings (state.removeThread id)).runTick commands seed)
      ((Machine.mk library settings state).runTick commands seed) := by
  intro state
  obtain ⟨route, deeds, edits, _⟩ := chronicle_kept happenings packable
  have sound : state.ListsSound := edits.listsSound
  have ledger := route.threadLedger (Nat.lt_of_le_of_lt (Nat.le_add_right _ _) room)
  have antedates : State.Antedates id state (SequencedCommand.mostThreads commands) :=
    ⟨(ledger.bounds (Table.contains_of_get? live)).2, ledger.count_eq ▸ room⟩
  rw [sound.removeThread_eq]
  refine @runTick_without ⟨library, settings, state⟩ commands seed id fault sound antedates ?_
  intro other found
  rw [← Option.some.inj (live.symm.trans found)]
  exact stuck

/-- The behavior in which a cat sleeps is no longer loaded when it should wake up. The tick is as if
it had no thread, also for a dog that comes after it and fails itself. -/
theorem runTick_stuck_cat :
    let settings : Settings := ⟨10, default⟩
    let happenings : List Happening :=
      [.operate (.spawn .object "cat" ⟨some 300, [], ⟨0, 0⟩⟩), .operate (.tick [] 7),
        .operate (.spawn .object "dog" ⟨some 300, [], ⟨0, 0⟩⟩)]
    let commands : List SequencedCommand := [⟨1, 2, ⟨7⟩, .join "ada"⟩]
    let library : Library := ⟨napLibrary.behaviors.erase 301⟩
    let state := (chronicle napLibrary settings happenings).machine.state
    let alone := (Machine.mk library settings (state.removeThread ⟨⟨1⟩, 1⟩)).runTick commands 8
    let together := (Machine.mk library settings state).runTick commands 8
    alone.report.faults = [⟨⟨⟨2⟩, 2⟩, .unknownPrimitive ⟨300, 0⟩ 301⟩] ∧
      together.report.faults = ⟨⟨⟨1⟩, 1⟩, .missingBehavior 301⟩ :: alone.report.faults ∧
      TickOutcome.AlikeBut ⟨⟨⟨1⟩, 1⟩, .missingBehavior 301⟩ alone together := by
  intro settings happenings commands library state alone together
  have packable : (Chronicle.new napLibrary settings).SnapshotsPackable happenings :=
    by decide +kernel
  have room : (starts (chronicle napLibrary settings happenings).passed).length +
      SequencedCommand.mostThreads commands < 2 ^ 64 := by decide +kernel
  have asleep : (state.threads.get? ⟨⟨1⟩, 1⟩).map (fun thread => thread.frames.map (·.behavior)) =
      some [301, 300] := by decide +kernel
  obtain ⟨thread, live, frames⟩ := Option.map_eq_some_iff.mp asleep
  obtain ⟨frame, callers, split, here, _⟩ := List.map_eq_cons_iff.mp frames
  have unloaded : library.contains 301 = false := by decide +kernel
  have stuck : thread.Stuck library (.missingBehavior 301) :=
    ⟨frame, callers, split, here ▸ .missingBehavior (here ▸ unloaded)⟩
  exact ⟨by decide +kernel, by decide +kernel, runTick_stuck packable room live stuck 8⟩

end Machine
end Lockstep
