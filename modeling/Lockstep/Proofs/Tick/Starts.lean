import Lockstep.Proofs.State.Numbered
import Lockstep.Proofs.Thread.Spares
import Lockstep.Proofs.Tick.Edited

/-!
# Threads that commands start

Before the turns of a tick its commands are applied. Each starts at most one thread, which gets the
next number and is at the first instruction of its behavior, or it starts none and may take some
away (`Underway.starts_applyCommand`). So a command changes no thread that was there before it, as
long as numbers are not given out again.
-/

set_option autoImplicit false

namespace Lockstep

/-- No thread has come, though some may have gone, or one has come with the next number. The index
is no less than how many have come. -/
inductive State.Starts (before after : State) : Nat → Prop where
  | nobody {most : Nat} (shrinks : before.threads.Shrinks after.threads)
      (counter : after.nextThreadSeq = before.nextThreadSeq) : Starts before after most
  | somebody {most : Nat} {owner : EntityId} {root : StackFrame}
      (catchless : root.catchErrors = false)
      (threads : after.threads =
        before.threads.insert ⟨owner, before.nextThreadSeq + 1⟩
          (Thread.new ⟨owner, before.nextThreadSeq + 1⟩ root))
      (counter : after.nextThreadSeq = before.nextThreadSeq + 1) : Starts before after (most + 1)

namespace State

/-- The table of threads is what it was, and so is the counter. -/
theorem starts_of_eq {before after : State} {most : Nat} (threads : after.threads = before.threads)
    (counter : after.nextThreadSeq = before.nextThreadSeq) : before.Starts after most :=
  .nobody (threads ▸ .refl _) counter

theorem Starts.shrinks {before after : State} (starts : before.Starts after 0) :
    before.threads.Shrinks after.threads := by
  cases starts with
  | nobody shrinks _ => exact shrinks

theorem starts_startThread {before after : State} {owner : EntityId} {behavior : UInt16}
    {caller stackObject : Option EntityId} {params : Vector Int16 4} {id : ThreadId}
    (started : before.startThread owner behavior caller stackObject params = some (id, after)) :
    before.Starts after 1 := by
  obtain ⟨_, rfl, rfl⟩ := startThread_eq started
  exact .somebody rfl rfl rfl

theorem starts_spawn (state : State) (kind : EntityKind) (name : String)
    (template : EntityTemplate) : state.Starts (state.spawn kind name template).2 1 := by
  obtain ⟨_, same⟩ | ⟨_, _, _, _, started, same⟩ := state.spawn_cases kind name template
  · rw [same]
    exact starts_of_eq rfl rfl
  · rw [same]
    -- The thread comes into the table that the new entity has left as it was.
    cases starts_startThread started with
    | nobody shrinks counter => exact .nobody shrinks counter
    | somebody catchless threads counter => exact .somebody catchless threads counter

theorem starts_despawn {before after : State} {id : EntityId} {trace : List TraceEntry}
    (gone : before.despawn id = some (trace, after)) : before.Starts after 0 := by
  have shrinks := shrinks_despawn gone
  obtain ⟨_, _, _, rfl⟩ := despawn_eq gone
  exact .nobody shrinks rfl

end State

/-! ## Commands -/

namespace Underway

theorem Applied.starts {library : Library} {settings : Settings} {client : ClientId}
    {action : CommandAction} {before after : Underway}
    (applied : Applied library settings client before action after) :
    before.state.Starts after.state action.mostThreads := by
  cases applied with
  | @joins name id made vacant spawned =>
    have starts := before.state.starts_spawn .avatar name settings.avatar
    rw [spawned] at starts
    cases starts with
    | nobody shrinks counter => exact .nobody shrinks counter
    | somebody catchless threads counter => exact .somebody catchless threads counter
  | leaves bound gone =>
    cases State.starts_despawn gone with
    | nobody shrinks counter => exact .nobody shrinks counter
  | interacts bound loaded may started => exact State.starts_startThread started
  | _ => exact State.starts_of_eq rfl rfl

/-- **A command starts one thread or none**, and changes no other. -/
theorem starts_applyCommand (library : Library) (settings : Settings) (underway : Underway)
    (command : SequencedCommand) :
    underway.state.Starts (underway.applyCommand library settings command).state
      command.action.mostThreads :=
  (applyCommand_applied library settings underway command).starts

end Underway

/-! ## Older threads -/

/-- The number of a thread has been given out, and there are so many left that have not. -/
structure State.Antedates (id : ThreadId) (state : State) (left : Nat) : Prop where
  given : id.seq.toNat ≤ state.nextThreadSeq.toNat
  room : state.nextThreadSeq.toNat + left < 2 ^ 64

namespace State

variable {before after : State} {id : ThreadId} {most left : Nat}

/-- The next number is another one. -/
theorem Antedates.fresh (antedates : Antedates id before left) (remains : 0 < left) :
    id.seq ≠ before.nextThreadSeq + 1 := by
  obtain ⟨given, room⟩ := antedates
  intro same
  rw [same, UInt64.toNat_add] at given
  change (before.nextThreadSeq.toNat + 1) % 2 ^ 64 ≤ _ at given
  omega

theorem Antedates.start (antedates : Antedates id before (most + left))
    (starts : before.Starts after most) : Antedates id after left := by
  obtain ⟨given, room⟩ := antedates
  cases starts with
  | nobody shrinks counter =>
    rw [← counter] at given room
    exact ⟨given, by omega⟩
  | somebody catchless threads counter =>
    have small : before.nextThreadSeq.toNat + 1 < 2 ^ 64 := by omega
    have number : after.nextThreadSeq.toNat = before.nextThreadSeq.toNat + 1 := by
      rw [counter, UInt64.toNat_add]
      exact Nat.mod_eq_of_lt small
    exact ⟨by omega, by omega⟩

/-- An older thread is what it was, or gone. -/
theorem Starts.spares (starts : before.Starts after most)
    (antedates : Antedates id before (most + left)) {thread : Thread}
    (found : after.threads.get? id = some thread) : before.threads.get? id = some thread := by
  cases starts with
  | nobody shrinks counter => exact shrinks id thread found
  | @somebody most owner root catchless threads counter =>
    have apart : id ≠ ⟨owner, before.nextThreadSeq + 1⟩ := fun same =>
      antedates.fresh (by omega) (congrArg ThreadId.seq same)
    rw [threads, Table.get?_insert, if_neg apart] at found
    exact found

end State

/-- Commands leave an older thread as it is, or remove it. -/
theorem Underway.commands_spare {library : Library} {settings : Settings}
    (commands : List SequencedCommand) {underway : Underway} {id : ThreadId}
    (antedates : State.Antedates id underway.state (SequencedCommand.mostThreads commands))
    {thread : Thread}
    (found : (commands.foldl (applyCommand library settings) underway).state.threads.get? id =
      some thread) : underway.state.threads.get? id = some thread := by
  induction commands generalizing underway with
  | nil => exact found
  | cons command rest inductionHypothesis =>
    have starts := starts_applyCommand library settings underway command
    exact starts.spares antedates (inductionHypothesis (antedates.start starts) found)

end Lockstep
