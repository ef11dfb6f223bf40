import Lockstep.Proofs.Command.Order
import Lockstep.Proofs.Command.Outcomes
import Lockstep.Proofs.Machine.History
import Lockstep.Proofs.Thread.Executions
import Lockstep.Proofs.Thread.Outcomes

/-!
# Ticks make edits

Instructions, turns, commands and whole ticks change a state only by edits, and so does everything
that a host does with a machine (`Machine.history_changed`). Only commands make entities and start
threads: one that joins may do both, one that interacts may start a thread, and no other does
either.
-/

set_option autoImplicit false

namespace Lockstep

variable {library : Library}

namespace Underway

/-! ## Ends of threads and removals -/

theorem edited_complete (underway : Underway) (id : ThreadId) (result : Bool) :
    underway.Edited 0 0 (underway.complete id result).2 :=
  .quiet (.removeThread _ id) (Effects.heard_addNote _ _ _)

theorem edited_abort (underway : Underway) (id : ThreadId) (fault : ThreadFault) :
    underway.Edited 0 0 (underway.abort id fault).2 :=
  .quiet (.removeThread _ id) (Effects.heard_addNote _ _ _)

theorem heard_catchFault (id : ThreadId) (caught : List ThreadFault) (effects : Effects) :
    (caught.foldl (catchFault id) effects).heard = effects.heard := by
  induction caught generalizing effects with
  | nil => rfl
  | cons fault rest inductionHypothesis =>
    rw [List.foldl_cons, inductionHypothesis]
    exact Effects.heard_addNote _ _ _

theorem edited_putThread (underway : Underway) (id : ThreadId) (temps : Vector Int16 8)
    (frames : List StackFrame) : underway.Edited 0 0 (underway.putThread id temps frames) :=
  .quiet (.setThread _ id temps frames) rfl

theorem edited_land (underway : Underway) (id : ThreadId) (temps : Vector Int16 8)
    (unwinding : Unwinding) : underway.Edited 0 0 (underway.land id temps unwinding).2 := by
  have noted : underway.Edited 0 0
      { underway with effects := unwinding.caught.foldl (catchFault id) underway.effects } :=
    .same rfl (heard_catchFault id unwinding.caught underway.effects)
  rw [land]
  cases unwinding.landing with
  | resumed frames => exact noted.trans (edited_putThread _ id temps frames)
  | completed result => exact noted.trans (edited_complete _ id result)
  | aborted fault => exact noted.trans (edited_abort _ id fault)

theorem edited_remove (underway : Underway) (id : EntityId) :
    underway.Edited 0 0 (underway.remove id) := by
  rw [remove]
  cases gone : underway.state.despawn id with
  | none => exact .refl _
  | some removed => exact .loud (.despawn gone) (Effects.heard_addTrace _ _)

theorem edited_removals (underway : Underway) (removals : List EntityId) :
    underway.Edited 0 0 (removals.foldl remove underway) := by
  induction removals generalizing underway with
  | nil => exact .refl _
  | cons id rest inductionHypothesis =>
    exact (edited_remove underway id).trans (inductionHypothesis _)

/-! ## Instructions and turns -/

/-- A primitive makes edits, and then the removals that it has asked for do. -/
theorem Performs.edited {id : ThreadId} {before : Underway} {temps : Vector Int16 8}
    {frame : StackFrame} {callers : List StackFrame} {instruction : Instruction}
    {action : Primitive} {exit : Exit} {context : Context}
    (performs : Performs library id before temps frame callers instruction action exit context) :
    before.Edited 0 0 (context.settled before.state) := by
  have acted : Context.Edited before.state ((Fetched.top temps frame callers).context id before)
      (action.run frame.pending ((Fetched.top temps frame callers).context id before)).2 :=
    action.run_edited frame.pending
  rw [performs.ran] at acted
  exact acted.trans (edited_removals (context.within before.state) context.removals)

theorem Outcome.edited {id : ThreadId} {before : Underway} {thread : Thread}
    {after : Flow × Underway} (outcome : Outcome library id before thread after) :
    before.Edited 0 0 after.2 := by
  cases outcome with
  | completes own temps => exact edited_complete before id true
  | refuses refusal => exact edited_abort before id _
  | @fails _ temps => exact edited_land before id temps _
  | @calls _ temps => exact edited_land before id temps _
  | vanishes performs => exact performs.edited
  | branches performs => exact performs.edited.trans (edited_land _ id _ _)
  | faults performs => exact performs.edited.trans (edited_land _ id _ _)
  | yields performs => exact performs.edited.trans (edited_putThread _ id _ _)

theorem edited_step (id : ThreadId) (thread : Thread) (underway : Underway) :
    underway.Edited 0 0 (step library id thread underway).2 :=
  (step_outcome library id thread underway).edited

/-- A turn leads to each of its instructions and to its end by edits. -/
theorem Turn.edited {budget : UInt32} {id : ThreadId} {count : Nat} {underway : Underway}
    {executed : List (Thread × Underway)} {outcome : TurnEnd × Underway}
    (turn : Turn library budget id count underway executed outcome) :
    (∀ thread now, (thread, now) ∈ executed → underway.Edited 0 0 now) ∧
      underway.Edited 0 0 outcome.2 :=
  turn.leads (fun before after => before.Edited 0 0 after) Edited.refl Edited.trans
    (fun _ => edited_step id _ _)
    (fun now fault => edited_abort now id fault)

theorem found_of_executes {id : ThreadId} {count : Nat} {underway now : Underway} {thread : Thread}
    (executes : (thread, now) ∈ executions library id count underway) :
    now.state.threads.get? id = some thread ∧ underway.Edited 0 0 now := by
  have turn := turn_executions library 0 id count underway
  exact ⟨turn.get?_of_mem executes, turn.edited.1 thread now executes⟩

theorem edited_runTurn (budget : UInt32) (id : ThreadId) (underway : Underway) :
    underway.Edited 0 0 (runTurn library budget id underway).2 :=
  (turn_executions library budget id budget.toNat underway).edited.2

/-! ## Commands -/

theorem edited_note (underway : Underway) (level : LogLevel) (text : String) :
    underway.Edited 0 0 { underway with effects := underway.effects.addNote level text } :=
  .same rfl (Effects.heard_addNote _ _ _)

end Underway

/-- No more entities than this are made when the action takes effect. -/
def CommandAction.mostEntities : CommandAction → Nat
  | .join _ => 1
  | _ => 0

theorem CommandAction.mostEntities_le_one (action : CommandAction) : action.mostEntities ≤ 1 := by
  cases action with
  | join name => exact Nat.le_refl 1
  | _ => exact Nat.zero_le 1

/-- No more threads than this are started when the action takes effect. -/
def CommandAction.mostThreads : CommandAction → Nat
  | .join _ => 1
  | .interact .. => 1
  | _ => 0

theorem Underway.Applied.edited {settings : Settings} {client : ClientId} {action : CommandAction}
    {before after : Underway} (applied : Applied library settings client before action after) :
    before.Edited action.mostEntities action.mostThreads after := by
  cases applied with
  | stays name bound => exact (edited_note before _ _).mono (Nat.zero_le _) (Nat.zero_le _)
  | @joins name id made vacant spawned =>
    obtain ⟨threads, found⟩ := before.state.get?_spawn .avatar name settings.avatar
    have kept := before.state.avatars_spawn .avatar name settings.avatar
    rw [spawned] at found kept
    have unbound : made.avatarOf? client = none := by
      rw [State.avatarOf?, kept]
      exact vacant
    exact .silent (.enroll spawned (.bind unbound found rfl rfl)) (Effects.heard_addNote _ _ _)
  | idles vacant other => exact (Edited.refl before).mono (Nat.zero_le _) (Nat.zero_le _)
  | leaves bound gone =>
    refine .loud (.despawn gone) ?_
    exact (Effects.heard_addNote _ _ _).trans (Effects.heard_addTrace _ _)
  | departs bound gone => exact .same rfl (Effects.heard_addNote _ _ _)
  | refuses => exact (edited_note before _ _).mono (Nat.le_refl _) (Nat.zero_le _)
  | interacts bound loaded may started => exact .silent (.startThread started) rfl
  | moves position bound => exact .quiet (.reshape _ fun entity => ⟨_, _, _, rfl⟩) rfl
  | chats text => exact .same rfl rfl

theorem Underway.edited_applyCommand (library : Library) (settings : Settings)
    (underway : Underway) (command : SequencedCommand) :
    underway.Edited command.action.mostEntities command.action.mostThreads
      (underway.applyCommand library settings command) :=
  (applyCommand_applied library settings underway command).edited

/-! ## Ticks -/

/-- No more entities than this are made by some commands. -/
def SequencedCommand.mostEntities (commands : List SequencedCommand) : Nat :=
  (commands.map fun command => command.action.mostEntities).sum

/-- No more threads than this are started by some commands. -/
def SequencedCommand.mostThreads (commands : List SequencedCommand) : Nat :=
  (commands.map fun command => command.action.mostThreads).sum

namespace SequencedCommand

@[simp]
theorem mostEntities_sort (commands : List SequencedCommand) :
    mostEntities (sort commands) = mostEntities commands :=
  sum_map_sort _ commands

@[simp]
theorem mostThreads_sort (commands : List SequencedCommand) :
    mostThreads (sort commands) = mostThreads commands :=
  sum_map_sort _ commands

end SequencedCommand

theorem Underway.edited_commands (library : Library) (settings : Settings)
    (commands : List SequencedCommand) (underway : Underway) :
    underway.Edited (SequencedCommand.mostEntities commands)
      (SequencedCommand.mostThreads commands)
      (commands.foldl (applyCommand library settings) underway) := by
  induction commands generalizing underway with
  | nil => exact .refl _
  | cons command rest inductionHypothesis =>
    exact (edited_applyCommand library settings underway command).trans (inductionHypothesis _)

/-- What a turn that ended like this adds to the list of faults. -/
def TurnEnd.records (id : ThreadId) : TurnEnd → List FaultRecord
  | .faulted fault => [⟨id, fault⟩]
  | _ => []

theorem TurnEnd.eq_of_mem_records {ending : TurnEnd} {id : ThreadId} {record : FaultRecord}
    (member : record ∈ ending.records id) : ending = .faulted record.fault := by
  cases ending with
  | faulted fault =>
    obtain rfl := List.mem_singleton.mp member
    rfl
  | _ => exact absurd member List.not_mem_nil

namespace Machine

theorem runTurns_cons (machine : Machine) (id : ThreadId) (rest : List ThreadId)
    (underway : Underway) (reversed : List FaultRecord) :
    machine.runTurns (id :: rest) underway reversed =
      let turn := Underway.runTurn machine.library machine.settings.turnBudget id underway
      machine.runTurns rest turn.2 (turn.1.records id ++ reversed) := by
  rw [runTurns]
  rcases Underway.runTurn machine.library machine.settings.turnBudget id underway with
    ⟨ending, after⟩
  cases ending <;> rfl

/-- A tick of a machine, before anything has happened in it. -/
def dawn (machine : Machine) (seed : UInt64) : Underway :=
  ⟨machine.state, Random.Stream.ofSeed seed, Effects.none⟩

theorem edited_begin (machine : Machine) (commands : List SequencedCommand) (seed : UInt64) :
    (machine.dawn seed).Edited (SequencedCommand.mostEntities commands)
      (SequencedCommand.mostThreads commands) (machine.begin commands seed) :=
  Underway.edited_commands machine.library machine.settings commands (machine.dawn seed)

theorem edited_runTurns (machine : Machine) (ids : List ThreadId) (underway : Underway)
    (reversed : List FaultRecord) :
    underway.Edited 0 0 (machine.runTurns ids underway reversed).2 := by
  induction ids generalizing underway reversed with
  | nil => exact .refl _
  | cons id rest inductionHypothesis =>
    rw [runTurns_cons]
    exact (Underway.edited_runTurn _ id underway).trans (inductionHypothesis _ _)

/-- A tick of a machine after the last turn, before the index of sounds is refreshed. -/
def dusk (machine : Machine) (commands : List SequencedCommand) (seed : UInt64) : Underway :=
  let begun := machine.begin (SequencedCommand.sort commands) seed
  (machine.runTurns begun.state.threads.keys begun []).2

/-- Between two turns of a tick, its commands have been applied and some threads have had their
turns. -/
theorem edited_turns (machine : Machine) (commands : List SequencedCommand) (seed : UInt64)
    (turns : List ThreadId) :
    (machine.dawn seed).Edited (SequencedCommand.mostEntities commands)
      (SequencedCommand.mostThreads commands)
      (machine.runTurns turns (machine.begin (SequencedCommand.sort commands) seed) []).2 := by
  have begun := machine.edited_begin (SequencedCommand.sort commands) seed
  rw [SequencedCommand.mostEntities_sort, SequencedCommand.mostThreads_sort] at begun
  exact begun.trans (machine.edited_runTurns turns _ [])

section

variable {machine : Machine} {commands : List SequencedCommand} {seed : UInt64}
  {entities threads : Nat}

/-- The trace tells what the player of sounds has heard in the tick. -/
theorem changed_dusk (edited : (machine.dawn seed).Edited entities threads
      (machine.dusk commands seed)) :
    machine.state.Changed entities threads
      (soundEvents .recording (machine.runTick commands seed).trace)
      (machine.dusk commands seed).state := by
  obtain ⟨events, changed, heard⟩ := edited
  have told : soundEvents .recording (machine.runTick commands seed).trace = events := heard
  exact told ▸ changed

/-- The player hears nothing of the end of the tick. -/
theorem changed_runTick {events : List SoundEvent}
    (changed : machine.state.Changed entities threads events (machine.dusk commands seed).state) :
    machine.state.Changed entities threads events (machine.runTick commands seed).machine.state := by
  have ended := changed.trans (.quiet (.tick _ (machine.state.tick + 1)))
  rw [List.append_nil] at ended
  exact ended

end

theorem runTick_changed (machine : Machine) (commands : List SequencedCommand) (seed : UInt64) :
    machine.state.Changed (SequencedCommand.mostEntities commands)
      (SequencedCommand.mostThreads commands)
      (soundEvents .recording (machine.runTick commands seed).trace)
      (machine.runTick commands seed).machine.state :=
  changed_runTick (changed_dusk (machine.edited_turns commands seed _))

end Machine

/-! ## Histories -/

/-- No more entities than this are made by an operation. -/
def Operation.mostEntities : Operation → Nat
  | .spawn .. => 1
  | .despawn _ => 0
  | .tick commands _ => SequencedCommand.mostEntities commands

/-- No more threads than this are started by an operation. -/
def Operation.mostThreads : Operation → Nat
  | .spawn .. => 1
  | .despawn _ => 0
  | .tick commands _ => SequencedCommand.mostThreads commands

theorem History.extend_changed (history : History) (operation : Operation) :
    ∃ events, history.machine.state.Changed operation.mostEntities operation.mostThreads events
        (history.extend operation).machine.state ∧
      soundEvents .recording (history.extend operation).trace =
        soundEvents .recording history.trace ++ events := by
  cases operation with
  | spawn kind name template =>
    exact ⟨[], history.machine.state.spawn_changed kind name template, (List.append_nil _).symm⟩
  | despawn id =>
    rw [extend, Machine.despawn]
    cases gone : history.machine.state.despawn id with
    | none => exact ⟨[], .refl _, (List.append_nil _).symm⟩
    | some removed => exact ⟨_, .loud (.despawn gone), soundEvents_append ..⟩
  | tick commands seed =>
    exact ⟨_, history.machine.runTick_changed commands seed, soundEvents_append ..⟩

/-- No more threads than this are started by some operations. -/
def Operation.mostThreadsOf (operations : List Operation) : Nat :=
  (operations.map Operation.mostThreads).sum

theorem Machine.mostThreadsOf_append (first second : List Operation) :
    Operation.mostThreadsOf (first ++ second) =
      Operation.mostThreadsOf first + Operation.mostThreadsOf second := by
  rw [Operation.mostThreadsOf, List.map_append, List.sum_append]
  rfl

theorem Machine.mostThreadsOf_tick (earlier : List Operation) (commands : List SequencedCommand)
    (seed : UInt64) (later : List Operation) :
    Operation.mostThreadsOf (earlier ++ .tick commands seed :: later) =
      Operation.mostThreadsOf earlier + SequencedCommand.mostThreads commands +
        Operation.mostThreadsOf later :=
  (mostThreadsOf_append ..).trans (Nat.add_assoc ..).symm

/-- **Whatever is done with a machine, it is done by edits**, and the trace tells the player of
sounds what the edits list as their deeds. -/
theorem Machine.history_changed {library : Library} {settings : Settings}
    (operations : List Operation) :
    ∃ entities, State.empty.Changed entities (Operation.mostThreadsOf operations)
      (soundEvents .recording (history library settings operations).trace)
      (history library settings operations).machine.state := by
  refine history_induction (motive := fun operations history => ∃ entities, State.empty.Changed
    entities (Operation.mostThreadsOf operations) (soundEvents .recording history.trace)
    history.machine.state) ⟨0, .refl _⟩ ?_ operations
  rintro operations operation history ⟨entities, before⟩
  obtain ⟨events, changed, heard⟩ := history.extend_changed operation
  rw [heard, mostThreadsOf_append]
  exact ⟨_, before.trans changed⟩

end Lockstep
