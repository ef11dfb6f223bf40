import Lockstep.Proofs.Thread.Placed
import Lockstep.Proofs.Tick.Edited

/-!
# Ticks that go right

A machine goes right when its library holds checked behaviors only, avatars begin in a behavior that
is loaded, and all threads are placed (`Machine.GoesRight`). A tick of such a machine shows only
warranted faults (`TickOutcome.Warranted`), and the machine goes right afterwards
(`Machine.runTick_warranted`), whatever the commands are and whatever the seed is.

Commands start threads only in behaviors that are loaded. One that interacts looks for itself, and
one that joins starts what avatars begin in.
-/

set_option autoImplicit false

namespace Lockstep

variable {library : Library}

/-! ## Starting threads -/

/-- A template begins in a behavior that is loaded, if it begins in one. -/
def EntityTemplate.Loaded (library : Library) (template : EntityTemplate) : Prop :=
  ∀ start, template.behavior = some start → ∃ behavior, library.get? start = some behavior

namespace State

theorem placed_startThread {state next : State} {owner : EntityId} {start : UInt16}
    {behavior : Behavior} {caller stackObject : Option EntityId} {params : Vector Int16 4}
    {id : ThreadId} (loaded : library.get? start = some behavior)
    (placed : state.threads.Placed library)
    (started : state.startThread owner start caller stackObject params = some (id, next)) :
    next.threads.Placed library := by
  obtain ⟨_, _, rfl⟩ := startThread_eq started
  refine placed.insert _ (List.forall_mem_singleton.mpr ?_)
  exact StackFrame.placed_of_start loaded rfl

theorem placed_spawn {state : State} (placed : state.threads.Placed library) (kind : EntityKind)
    (name : String) {template : EntityTemplate} (loaded : template.Loaded library) :
    (state.spawn kind name template).2.threads.Placed library := by
  obtain ⟨_, same⟩ | ⟨start, _, _, begins, started, same⟩ := state.spawn_cases kind name template
  · rw [same]
    exact placed
  · rw [same]
    obtain ⟨behavior, loaded⟩ := loaded start begins
    refine placed_startThread loaded ?_ started
    exact placed

end State

/-! ## Commands -/

namespace Underway

variable {underway : Underway}

theorem Applied.warranted {settings : Settings} (loaded : settings.avatar.Loaded library)
    {client : ClientId} {action : CommandAction} {before after : Underway}
    (applied : Applied library settings client before action after)
    (warranted : before.Warranted library) : after.Warranted library := by
  obtain ⟨threads, effects⟩ := warranted
  cases applied with
  | stays name bound => exact ⟨threads, effects.noteAside _ (client.aside.append _)⟩
  | @joins name id made vacant spawned =>
    have placed := State.placed_spawn threads .avatar name loaded
    have line : Aside (client.text ++ " joined as " ++ id.text) :=
      (client.aside.append _).append _
    rw [spawned] at placed
    refine ⟨placed, (effects.noteAside _ ?_).sayAside line⟩
    exact ((line.append _).append _).append _
  | idles vacant other => exact ⟨threads, effects⟩
  | leaves bound gone =>
    have line : Aside (client.text ++ " left") := client.aside.append _
    refine ⟨(State.shrinks_despawn gone).placed threads, ?_⟩
    exact ((despawn_effects gone effects).noteAside _ line).sayAside line
  | departs bound gone =>
    have line : Aside (client.text ++ " left") := client.aside.append _
    refine ⟨threads, (Effects.Warranted.noteAside ?_ _ line).sayAside line⟩
    exact effects.trace fun _ _ member => absurd member List.not_mem_nil
  | refuses target behavior args bound =>
    refine ⟨threads, effects.noteAside _ ?_⟩
    exact (((client.aside.append _).append _).append _).append _
  | interacts bound known may started =>
    obtain ⟨behavior, found⟩ := Library.contains_iff.mp known
    refine ⟨State.placed_startThread found threads started, effects.sayAside ?_⟩
    exact ((((((EntityId.aside _).append _).append _).append _).append _).append _).append _
  | moves position bound => exact ⟨threads, effects⟩
  | chats text => exact ⟨threads, effects.sayAside ((client.aside.append _).append _)⟩

/-- A command starts no thread that is not placed, and tells of no fault. -/
theorem applyCommand_warranted (warranted : underway.Warranted library) {settings : Settings}
    (loaded : settings.avatar.Loaded library) (command : SequencedCommand) :
    (underway.applyCommand library settings command).Warranted library :=
  (applyCommand_applied library settings underway command).warranted loaded warranted

theorem commands_warranted (warranted : underway.Warranted library) {settings : Settings}
    (loaded : settings.avatar.Loaded library) (commands : List SequencedCommand) :
    (commands.foldl (applyCommand library settings) underway).Warranted library := by
  induction commands generalizing underway with
  | nil => exact warranted
  | cons command rest inductionHypothesis =>
    exact inductionHypothesis (applyCommand_warranted warranted loaded command)

end Underway

/-! ## Ticks -/

/-- All faults that a tick shows are warranted: those that ended threads, and those that were
caught, of which a line and a note tell. -/
structure TickOutcome.Warranted (library : Library) (outcome : TickOutcome) : Prop where
  faults : ∀ record ∈ outcome.report.faults, record.fault.Warranted library
  lines : ∀ line ∈ outcome.report.events, library.MaySay line
  notes : ∀ level text, TraceEntry.note level text ∈ outcome.trace → library.MayNote text

namespace Machine

/-- A machine with checked behaviors in which all threads are placed, and will be. -/
structure GoesRight (machine : Machine) : Prop where
  checked : machine.library.Checked
  avatar : machine.settings.avatar.Loaded machine.library
  threads : machine.state.threads.Placed machine.library

variable {machine : Machine}

theorem runTurns_warranted (checked : machine.library.Checked) (ids : List ThreadId)
    {underway : Underway} (warranted : underway.Warranted machine.library)
    (reversed : List FaultRecord)
    (before : ∀ record ∈ reversed, record.fault.Warranted machine.library) :
    (∀ record ∈ (machine.runTurns ids underway reversed).1,
        record.fault.Warranted machine.library) ∧
      (machine.runTurns ids underway reversed).2.Warranted machine.library := by
  induction ids generalizing underway reversed with
  | nil => exact ⟨fun record member => before record (List.mem_reverse.mp member), warranted⟩
  | cons id rest inductionHypothesis =>
    obtain ⟨ending, after⟩ :=
      Underway.runTurn_warranted checked machine.settings.turnBudget id warranted
    rw [runTurns_cons]
    refine inductionHypothesis after _ (List.forall_mem_append.mpr ⟨fun record member => ?_, before⟩)
    rw [TurnEnd.eq_of_mem_records member] at ending
    exact ending

/-- **A tick of a machine that goes right shows warranted faults only**, and the machine goes right
afterwards. -/
theorem runTick_warranted (right : machine.GoesRight) (commands : List SequencedCommand)
    (seed : UInt64) :
    (machine.runTick commands seed).Warranted machine.library ∧
      (machine.runTick commands seed).machine.GoesRight := by
  have dawn : Underway.Warranted machine.library
      ⟨machine.state, Random.Stream.ofSeed seed, Effects.none⟩ := ⟨right.threads, .none⟩
  have begun := Underway.commands_warranted dawn right.avatar (SequencedCommand.sort commands)
  obtain ⟨faults, ended⟩ := runTurns_warranted right.checked
    (machine.begin (SequencedCommand.sort commands) seed).state.threads.keys begun
    [] (by simp)
  refine ⟨⟨faults, fun line member => ?_, fun level text member => ?_⟩, ?_⟩
  · exact ended.effects.lines line (List.mem_reverse.mp member)
  · exact ended.effects.notes level text (List.mem_reverse.mp member)
  · exact ⟨right.checked, right.avatar, ended.threads⟩

end Machine
end Lockstep
