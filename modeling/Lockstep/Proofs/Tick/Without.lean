import Lockstep.Proofs.Thread.Without
import Lockstep.Proofs.Tick.Starts

/-!
# Ticks without a thread

The commands of a tick do not depend on an older thread that is there, as long as its number is not
given out again (`Underway.commands_without`), and neither do the turns of other threads
(`Machine.runTurns_without`). So the threads that have turns before it, and those that have turns
after it, do in a tick what they would do without it.
-/

set_option autoImplicit false

namespace Lockstep

namespace Underway

variable {library : Library} {settings : Settings} {thread : ThreadId} {earlier : List TraceEntry}

/-! ## Commands -/

theorem join_without (client : ClientId) (name : String) (underway : Underway)
    (fresh : thread.seq ≠ underway.state.nextThreadSeq + 1) :
    (underway.without thread earlier).join settings client name =
      (underway.join settings client name).without thread earlier := by
  have spawned : (underway.without thread earlier).state.spawn .avatar name settings.avatar = _ :=
    underway.state.spawn_without fresh .avatar name settings.avatar
  rw [join, join, spawned]
  dsimp only
  rw [apply_ite (without thread earlier)]
  refine if_congr Iff.rfl ?_ ?_
  · exact congrArg (mk _ _) (underway.effects.addNote_onto earlier _ _)
  · dsimp only [without, State.without]
    rw [EntityTable.modify_unlist, Effects.addNote_onto]
    · rfl
    · exact fun _ => rfl

theorem avatarOf?_without (client : ClientId) (underway : Underway) :
    (underway.without thread earlier).state.avatarOf? client = underway.state.avatarOf? client :=
  rfl

theorem leave_without (client : ClientId) (underway : Underway) :
    (underway.without thread earlier).leave client =
      (underway.leave client).without thread earlier := by
  rw [leave, leave, avatarOf?_without]
  cases underway.state.avatarOf? client with
  | none => rfl
  | some id =>
    dsimp only [without]
    rw [State.despawn_without]
    cases underway.state.despawn id with
    | none =>
      dsimp only [Option.map_none, Option.getD_none]
      rw [Effects.addTrace_onto, Effects.addNote_onto]
      rfl
    | some removed =>
      dsimp only [Option.map_some, Option.getD_some]
      rw [Effects.addTrace_onto, Effects.addNote_onto]
      rfl

theorem mayInteract_without (client : ClientId) (target : EntityId) (underway : Underway) :
    (underway.without thread earlier).state.mayInteract client target =
      underway.state.mayInteract client target := by
  rw [State.mayInteract, State.mayInteract, without, State.without, EntityTable.get?_unlist]
  cases underway.state.entities.get? target <;> rfl

theorem interact_without (client : ClientId) (target : EntityId) (behavior : UInt16)
    (args : Vector Int16 4) (underway : Underway)
    (fresh : thread.seq ≠ underway.state.nextThreadSeq + 1) :
    (underway.without thread earlier).interact library client target behavior args =
      (underway.interact library client target behavior args).without thread earlier := by
  rw [interact, interact]
  dsimp only
  rw [avatarOf?_without, mayInteract_without]
  cases underway.state.avatarOf? client with
  | none => rfl
  | some avatar =>
    dsimp only
    split
    · exact congrArg (mk _ _) (underway.effects.addNote_onto earlier _ _)
    · have started : (underway.without thread earlier).state.startThread target behavior
          (some avatar) (some avatar) args = _ :=
        underway.state.startThread_without fresh target behavior (some avatar) (some avatar) args
      rw [started]
      cases underway.state.startThread target behavior (some avatar) (some avatar) args <;> rfl

theorem move_without (client : ClientId) (position : Position) (underway : Underway) :
    (underway.without thread earlier).move client position =
      (underway.move client position).without thread earlier := by
  rw [move, move, avatarOf?_without]
  cases underway.state.avatarOf? client with
  | none => rfl
  | some id =>
    dsimp only [without, State.without]
    rw [EntityTable.modify_unlist]
    exact fun _ => rfl

/-- A command does not depend on a thread that is older than the one that it may start. -/
theorem applyCommand_without {left : Nat} (underway : Underway) (command : SequencedCommand)
    (antedates : State.Antedates thread underway.state (command.action.mostThreads + left)) :
    (underway.without thread earlier).applyCommand library settings command =
      (underway.applyCommand library settings command).without thread earlier := by
  obtain ⟨seq, tick, client, action⟩ := command
  cases action with
  | join name =>
    exact join_without client name underway (antedates.fresh (Nat.add_pos_left Nat.one_pos left))
  | leave => exact leave_without client underway
  | interact target behavior args =>
    exact interact_without client target behavior args underway
      (antedates.fresh (Nat.add_pos_left Nat.one_pos left))
  | move position => exact move_without client position underway
  | chat text => rfl

/-- **Commands do not depend on an older thread.** -/
theorem commands_without (commands : List SequencedCommand) (underway : Underway)
    (antedates : State.Antedates thread underway.state (SequencedCommand.mostThreads commands)) :
    commands.foldl (applyCommand library settings) (underway.without thread earlier) =
      (commands.foldl (applyCommand library settings) underway).without thread earlier := by
  induction commands generalizing underway with
  | nil => rfl
  | cons command rest inductionHypothesis =>
    rw [List.foldl_cons, List.foldl_cons, applyCommand_without underway command antedates]
    exact inductionHypothesis _
      (antedates.start (starts_applyCommand library settings underway command))

end Underway

/-! ## Turns -/

namespace Machine

variable {machine : Machine} {thread : ThreadId} {earlier : List TraceEntry}

/-- **The turns of other threads do not depend on a thread.** -/
theorem runTurns_without {ids : List ThreadId} (other : thread ∉ ids) (underway : Underway)
    (reversed : List FaultRecord) :
    machine.runTurns ids (underway.without thread earlier) reversed =
      Underway.outcomeWithout thread earlier (machine.runTurns ids underway reversed) := by
  induction ids generalizing underway reversed with
  | nil => rfl
  | cons id rest inductionHypothesis =>
    have apart := List.ne_of_not_mem_cons other
    have later := List.not_mem_of_not_mem_cons other
    rw [runTurns_cons, runTurns_cons, Underway.runTurn_without apart.symm]
    exact inductionHypothesis later _ _

/-- The faults that are already known come first. -/
theorem runTurns_reversed (machine : Machine) (ids : List ThreadId) (underway : Underway)
    (reversed : List FaultRecord) :
    machine.runTurns ids underway reversed =
      (reversed.reverse ++ (machine.runTurns ids underway []).1,
        (machine.runTurns ids underway []).2) := by
  induction ids generalizing underway reversed with
  | nil => exact Prod.ext (List.append_nil _).symm rfl
  | cons id rest inductionHypothesis =>
    rw [runTurns_cons, runTurns_cons]
    dsimp only
    rw [inductionHypothesis, inductionHypothesis _ (_ ++ []), List.append_nil, List.reverse_append,
      List.append_assoc]

/-- Turns of some threads, and then of others. -/
theorem runTurns_append (machine : Machine) (first second : List ThreadId) (underway : Underway) :
    machine.runTurns (first ++ second) underway [] =
      let start := machine.runTurns first underway []
      let rest := machine.runTurns second start.2 []
      (start.1 ++ rest.1, rest.2) := by
  have general (reversed : List FaultRecord) :
      machine.runTurns (first ++ second) underway reversed =
        machine.runTurns second (machine.runTurns first underway reversed).2
          (machine.runTurns first underway reversed).1.reverse := by
    induction first generalizing underway reversed with
    | nil => exact congrArg _ (List.reverse_reverse reversed).symm
    | cons id rest inductionHypothesis =>
      rw [List.cons_append, runTurns_cons, runTurns_cons]
      exact inductionHypothesis _ _
  rw [general, runTurns_reversed, List.reverse_reverse]

end Machine
end Lockstep
