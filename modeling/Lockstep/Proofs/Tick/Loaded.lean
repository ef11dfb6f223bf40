import Lockstep.Proofs.Thread.Becomes
import Lockstep.Proofs.Thread.Faults
import Lockstep.Proofs.Tick.Advance
import Lockstep.Proofs.Tick.Starts
import Lockstep.Proofs.Tick.Warranted

/-!
# Loaded threads

All frames of a thread run behaviors that are loaded, whatever those behaviors are. Where avatars
begin in a behavior that is loaded, no command and no instruction starts or calls one that is not
(`State.Advances.loaded`). So all threads stay loaded at every moment of a tick, and none of them
fails because a behavior is not there (`Machine.runTick_loaded`).
-/

set_option autoImplicit false

namespace Lockstep

/-- All frames of a thread run behaviors that are loaded. -/
def Thread.Loaded (library : Library) (thread : Thread) : Prop :=
  ∀ frame ∈ thread.frames, library.contains frame.behavior = true

/-- All frames of all threads run behaviors that are loaded. -/
def ThreadTable.Loaded (library : Library) (threads : ThreadTable) : Prop :=
  ∀ id thread, threads.get? id = some thread → thread.Loaded library

variable {library : Library}

/-- A thread stays loaded: it calls only behaviors that are. -/
theorem Thread.Becomes.loaded {before after : Thread} (becomes : before.Becomes library after)
    (loaded : before.Loaded library) : after.Loaded library := by
  cases becomes with
  | works later pc locals params stackObject pending =>
    obtain ⟨here, below⟩ := List.forall_mem_cons.mp loaded
    exact List.forall_mem_cons.mpr ⟨here, below⟩
  | calls callee =>
    obtain ⟨here, below⟩ := List.forall_mem_cons.mp loaded
    exact List.forall_mem_cons.mpr ⟨callee, List.forall_mem_cons.mpr ⟨here, below⟩⟩
  | returns later result left found =>
    obtain ⟨here, below⟩ := List.forall_mem_cons.mp (List.forall_mem_append.mp loaded).2
    exact List.forall_mem_cons.mpr ⟨here, below⟩

namespace ThreadTable

variable {threads before after : ThreadTable}

theorem Shrinks.loaded (shrinks : before.Shrinks after) (loaded : before.Loaded library) :
    after.Loaded library :=
  fun id thread held => loaded id thread (shrinks id thread held)

end ThreadTable

/-! ## Starting threads -/

namespace State

theorem loaded_startThread {state next : State} {owner : EntityId} {start : UInt16}
    {caller stackObject : Option EntityId} {params : Vector Int16 4} {id : ThreadId}
    (known : library.contains start = true) (loaded : state.threads.Loaded library)
    (started : state.startThread owner start caller stackObject params = some (id, next)) :
    next.threads.Loaded library := by
  obtain ⟨_, _, rfl⟩ := startThread_eq started
  intro other thread held
  rcases Table.eq_or_of_get?_insert held with rfl | earlier
  · exact List.forall_mem_singleton.mpr known
  · exact loaded other thread earlier

theorem loaded_spawn {state : State} (loaded : state.threads.Loaded library) (kind : EntityKind)
    (name : String) {template : EntityTemplate} (begins : template.Loaded library) :
    (state.spawn kind name template).2.threads.Loaded library := by
  obtain ⟨_, same⟩ | ⟨start, _, _, begun, started, same⟩ := state.spawn_cases kind name template
  · rw [same]
    exact loaded
  · rw [same]
    refine loaded_startThread (Library.contains_iff.mpr (begins start begun)) ?_ started
    exact loaded

end State

namespace Underway

theorem Applied.loaded {settings : Settings} (avatar : settings.avatar.Loaded library)
    {client : ClientId} {action : CommandAction} {before after : Underway}
    (applied : Applied library settings client before action after)
    (loaded : before.state.threads.Loaded library) : after.state.threads.Loaded library := by
  cases applied with
  | @joins name id made vacant spawned =>
    have kept := State.loaded_spawn loaded .avatar name avatar
    rw [spawned] at kept
    exact kept
  | leaves bound gone => exact (State.shrinks_despawn gone).loaded loaded
  | interacts bound known may started => exact State.loaded_startThread known loaded started
  | _ => exact loaded

/-- A command starts no thread that is not loaded. -/
theorem applyCommand_loaded {settings : Settings} (avatar : settings.avatar.Loaded library)
    {underway : Underway} (command : SequencedCommand)
    (loaded : underway.state.threads.Loaded library) :
    (underway.applyCommand library settings command).state.threads.Loaded library :=
  (applyCommand_applied library settings underway command).loaded avatar loaded

/-! ## Instructions and turns -/

theorem step_loaded {underway : Underway} {id : ThreadId} {thread : Thread}
    (found : underway.state.threads.get? id = some thread)
    (loaded : underway.state.threads.Loaded library) :
    (step library id thread underway).2.state.threads.Loaded library := by
  intro other later held
  by_cases own : other = id
  · subst own
    exact (step_becomes held).loaded (loaded _ thread found)
  · exact loaded other later (spares_step id thread underway other later own held)

theorem Turn.loaded {budget : UInt32} {id : ThreadId} {count : Nat} {underway : Underway}
    {executed : List (Thread × Underway)} {outcome : TurnEnd × Underway}
    (turn : Turn library budget id count underway executed outcome)
    (loaded : underway.state.threads.Loaded library) :
    (∀ behavior, outcome.1 ≠ .faulted (.missingBehavior behavior)) ∧
      outcome.2.state.threads.Loaded library := by
  induction turn with
  | absent gone => exact ⟨nofun, loaded⟩
  | @exhausted now present =>
    exact ⟨nofun, (ThreadTable.shrinks_erase now.state.threads id).loaded loaded⟩
  | @ends _ now after thread ending found stepped =>
    have kept := step_loaded found loaded
    rw [stepped] at kept
    refine ⟨?_, kept⟩
    rintro behavior rfl
    obtain ⟨frame, callers, frames, rfl, absent⟩ := step_missing (congrArg Prod.fst stepped)
    have here := loaded id thread found frame (frames ▸ List.mem_cons_self)
    exact absurd (here.symm.trans absent) Bool.noConfusion
  | goesOn found stepped _ inductionHypothesis =>
    have kept := step_loaded found loaded
    rw [stepped] at kept
    exact inductionHypothesis kept

/-- A turn in which all threads are loaded leaves them so, and misses no behavior. -/
theorem runTurn_loaded (budget : UInt32) (id : ThreadId) {underway : Underway}
    (loaded : underway.state.threads.Loaded library) :
    (∀ behavior, (runTurn library budget id underway).1 ≠ .faulted (.missingBehavior behavior)) ∧
      (runTurn library budget id underway).2.state.threads.Loaded library :=
  (turn_executions library budget id budget.toNat underway).loaded loaded

end Underway

/-! ## Ticks -/

/-- **Every step of a tick keeps all threads loaded.** -/
theorem State.Advances.loaded {settings : Settings} (avatar : settings.avatar.Loaded library)
    {before after : State} (advances : before.Advances library settings after)
    (loaded : before.threads.Loaded library) : after.threads.Loaded library := by
  cases advances with
  | rest => exact loaded
  | command underway command => exact Underway.applyCommand_loaded avatar command loaded
  | instruct found => exact Underway.step_loaded found loaded
  | stop _ id => exact (ThreadTable.shrinks_erase before.threads id).loaded loaded
  | finish _ tick => exact loaded

namespace Machine

/-- A machine in which all threads are loaded, and will be. -/
structure Loaded (machine : Machine) : Prop where
  avatar : machine.settings.avatar.Loaded machine.library
  threads : machine.state.threads.Loaded machine.library

/-- The states of a tick: the one before it, those of its moments, and the one after it. -/
def tickStates (machine : Machine) (commands : List SequencedCommand) (seed : UInt64) :
    List State :=
  machine.state :: ((machine.moments commands seed).map Underway.state ++
    [(machine.runTick commands seed).machine.state])

variable {machine : Machine}

theorem runTurns_loaded (ids : List ThreadId) {underway : Underway}
    (loaded : underway.state.threads.Loaded machine.library) (reversed : List FaultRecord)
    (before : ∀ record ∈ reversed, ∀ behavior, record.fault ≠ .missingBehavior behavior) :
    ∀ record ∈ (machine.runTurns ids underway reversed).1,
      ∀ behavior, record.fault ≠ .missingBehavior behavior := by
  induction ids generalizing underway reversed with
  | nil => exact fun record member => before record (List.mem_reverse.mp member)
  | cons id rest inductionHypothesis =>
    obtain ⟨misses, after⟩ :=
      Underway.runTurn_loaded machine.settings.turnBudget id loaded
    rw [runTurns_cons]
    refine inductionHypothesis after _ (List.forall_mem_append.mpr ⟨fun record member => ?_, before⟩)
    have ended := TurnEnd.eq_of_mem_records member
    exact fun behavior here => misses behavior (ended.trans (congrArg TurnEnd.faulted here))

/-- **A tick of a machine in which all threads are loaded misses no behavior**, and all threads are
loaded all the time and afterwards. -/
theorem runTick_loaded (loaded : machine.Loaded) (commands : List SequencedCommand)
    (seed : UInt64) :
    (∀ state ∈ machine.tickStates commands seed, state.threads.Loaded machine.library) ∧
      (∀ record ∈ (machine.runTick commands seed).report.faults,
        ∀ behavior, record.fault ≠ .missingBehavior behavior) ∧
      (machine.runTick commands seed).machine.Loaded := by
  have advance (before after : State)
      (advances : before.Advances machine.library machine.settings after) :
      before.threads.Loaded machine.library → after.threads.Loaded machine.library :=
    advances.loaded loaded.avatar
  have begun := machine.begin_path (SequencedCommand.sort commands) seed
  have tick := machine.tick_path commands seed
  refine ⟨tick.forall_mem loaded.threads advance, ?_, loaded.avatar, ?_⟩
  · exact machine.runTurns_loaded _ (begun.keep loaded.threads advance) [] nofun
  · exact tick.keep loaded.threads advance

end Machine
end Lockstep
