import Lockstep.Proofs.Primitive.Edited
import Lockstep.Proofs.Primitive.Without
import Lockstep.Thread.Turn

/-!
# Turns without another thread

A turn of one thread does not depend on another thread that is there, nor on what has been traced.
Take the other one out of the state, or put more into the trace: the turn ends in the same way, and
it does the same to the rest (`Underway.runTurn_without`). That is so whether the turn leaves the
other thread alone or takes it away together with its owner, since both can be done in either order.
-/

set_option autoImplicit false

namespace Lockstep.Underway

/-- A tick under way, without a thread, and with something that was traced earlier. -/
def without (thread : ThreadId) (earlier : List TraceEntry) (underway : Underway) : Underway where
  state := underway.state.without thread
  random := underway.random
  effects := underway.effects.onto earlier

/-- What an instruction or a turn gives, without a thread. -/
def outcomeWithout {α : Type} (thread : ThreadId) (earlier : List TraceEntry)
    (outcome : α × Underway) : α × Underway :=
  (outcome.1, outcome.2.without thread earlier)

variable {library : Library} {thread id : ThreadId} {earlier : List TraceEntry}

theorem get?_without (apart : id ≠ thread) (underway : Underway) :
    (underway.without thread earlier).state.threads.get? id = underway.state.threads.get? id :=
  Table.get?_erase_of_ne _ apart

theorem contains_without (apart : id ≠ thread) (underway : Underway) :
    (underway.without thread earlier).state.threads.contains id =
      underway.state.threads.contains id :=
  congrArg Option.isSome (get?_without apart underway)

/-! ## Ends of threads and removals -/

theorem complete_without (underway : Underway) (id : ThreadId) (result : Bool) :
    (underway.without thread earlier).complete id result =
      outcomeWithout thread earlier (underway.complete id result) :=
  congrArg₂ (fun state effects => (Flow.done (.completed result), mk state underway.random effects))
    (underway.state.removeThread_without thread id) (underway.effects.addNote_onto earlier _ _)

theorem abort_without (underway : Underway) (id : ThreadId) (fault : ThreadFault) :
    (underway.without thread earlier).abort id fault =
      outcomeWithout thread earlier (underway.abort id fault) :=
  congrArg₂ (fun state effects => (Flow.done (.faulted fault), mk state underway.random effects))
    (underway.state.removeThread_without thread id) (underway.effects.addNote_onto earlier _ _)

theorem caught_onto (id : ThreadId) (caught : List ThreadFault) (effects : Effects)
    (earlier : List TraceEntry) :
    caught.foldl (catchFault id) (effects.onto earlier) =
      (caught.foldl (catchFault id) effects).onto earlier := by
  refine List.foldl_hom (Effects.onto earlier) fun effects fault => ?_
  rw [catchFault, catchFault, Effects.addNote_onto]
  rfl

/-- A thread is put somewhere. -/
theorem putThread_without (underway : Underway) (id : ThreadId) (temps : Vector Int16 8)
    (frames : List StackFrame) :
    (underway.without thread earlier).putThread id temps frames =
      (underway.putThread id temps frames).without thread earlier :=
  congrArg (fun threads =>
    { underway.without thread earlier with
      state := { underway.state.without thread with threads } })
    (underway.state.threads.modify_erase id thread _)

theorem land_without (underway : Underway) (id : ThreadId) (temps : Vector Int16 8)
    (unwinding : Unwinding) :
    (underway.without thread earlier).land id temps unwinding =
      outcomeWithout thread earlier (underway.land id temps unwinding) := by
  have caught := caught_onto id unwinding.caught underway.effects earlier
  let noted : Underway :=
    { underway with effects := unwinding.caught.foldl (catchFault id) underway.effects }
  rw [land, land, without]
  dsimp only
  rw [caught]
  cases unwinding.landing with
  | resumed frames => exact congrArg (Prod.mk Flow.next) (noted.putThread_without id temps frames)
  | completed result => exact noted.complete_without id result
  | aborted fault => exact noted.abort_without id fault

theorem remove_without (underway : Underway) (gone : EntityId) :
    (underway.without thread earlier).remove gone =
      (underway.remove gone).without thread earlier := by
  rw [remove, remove, without]
  dsimp only
  rw [State.despawn_without]
  cases underway.state.despawn gone with
  | none => rfl
  | some removed =>
    dsimp only [Option.map_some]
    rw [Effects.addTrace_onto]
    rfl

theorem removals_without (underway : Underway) (removals : List EntityId) :
    removals.foldl remove (underway.without thread earlier) =
      (removals.foldl remove underway).without thread earlier :=
  List.foldl_hom (without thread earlier) remove_without

/-! ## Instructions -/

theorem call_without (fetched : Fetched) (request : Call)
    (underway : Underway) :
    call library id fetched request (underway.without thread earlier) =
      outcomeWithout thread earlier (call library id fetched request underway) := by
  rw [call, call]
  dsimp only
  split
  · exact underway.abort_without id _
  · split
    · exact underway.land_without id fetched.temps _
    · exact underway.land_without id fetched.temps _

theorem finish_without (instruction : Instruction) (kind : PrimitiveKind)
    (frame : StackFrame) (callers : List StackFrame) (temps : Vector Int16 8) (exit : Exit)
    (underway : Underway) :
    finish library id instruction kind frame callers temps exit
        (underway.without thread earlier) =
      outcomeWithout thread earlier
        (finish library id instruction kind frame callers temps exit underway) := by
  cases exit with
  | branch result => exact underway.land_without id temps _
  | fault fault => exact underway.land_without id temps _
  | yield progress => exact congrArg (Prod.mk (Flow.done .yielded)) (underway.putThread_without ..)

theorem perform_without (apart : id ≠ thread) (fetched : Fetched) (instruction : Instruction)
    (action : Primitive) (underway : Underway) :
    perform library id fetched instruction action (underway.without thread earlier) =
      outcomeWithout thread earlier (perform library id fetched instruction action underway) := by
  have acted : action.run fetched.resumed (fetched.context id (underway.without thread earlier)) =
      Primitive.without thread earlier (action.run fetched.resumed (fetched.context id underway)) :=
    @Primitive.run_without (fetched.context id underway) thread earlier action fetched.resumed
  rw [perform_eq, perform_eq, acted]
  generalize action.run fetched.resumed (fetched.context id underway) = outcome
  have removed : outcome.2.removals.foldl remove
      ((outcome.2.without thread earlier).within (underway.without thread earlier).state) = _ :=
    removals_without (outcome.2.within underway.state) outcome.2.removals
  dsimp only [Primitive.without, Context.without] at removed ⊢
  rw [removed, contains_without apart, finish_without,
    apply_ite (outcomeWithout thread earlier)]
  rfl

theorem execute_without (apart : id ≠ thread) (fetched : Fetched) (underway : Underway) :
    execute library id fetched (underway.without thread earlier) =
      outcomeWithout thread earlier (execute library id fetched underway) := by
  rw [execute, execute]
  dsimp only
  split
  · exact underway.abort_without id _
  · split
    · exact underway.land_without id fetched.temps _
    · split
      · exact underway.abort_without id _
      · exact underway.land_without id fetched.temps _
      · exact call_without fetched _ underway
      · exact perform_without apart fetched _ _ underway

/-- **An instruction does not depend on another thread.** -/
theorem step_without (apart : id ≠ thread) (own : Thread) (underway : Underway) :
    step library id own (underway.without thread earlier) =
      outcomeWithout thread earlier (step library id own underway) := by
  rw [step, step]
  split
  · exact underway.complete_without id true
  · exact execute_without apart _ underway

/-! ## Turns -/

theorem runInstructions_without (apart : id ≠ thread) (budget : UInt32) (count : Nat)
    (underway : Underway) :
    runInstructions library budget id count (underway.without thread earlier) =
      outcomeWithout thread earlier (runInstructions library budget id count underway) := by
  induction count generalizing underway with
  | zero =>
    rw [runInstructions, runInstructions, contains_without apart, abort_without,
      apply_ite (outcomeWithout thread earlier)]
    rfl
  | succ remaining inductionHypothesis =>
    rw [runInstructions, runInstructions, get?_without apart]
    cases underway.state.threads.get? id with
    | none => rfl
    | some own =>
      dsimp only
      rw [step_without apart]
      rcases step library id own underway with ⟨flow, after⟩
      cases flow with
      | next => exact inductionHypothesis after
      | done ending => rfl

/-- **A turn does not depend on another thread.** -/
theorem runTurn_without (apart : id ≠ thread) (budget : UInt32) (underway : Underway) :
    runTurn library budget id (underway.without thread earlier) =
      outcomeWithout thread earlier (runTurn library budget id underway) :=
  runInstructions_without apart budget budget.toNat underway

end Lockstep.Underway
