import Lockstep.Proofs.Primitive.Discreet
import Lockstep.Proofs.Primitive.Frame
import Lockstep.Proofs.Thread.Leaves

/-!
# Threads that are placed

All frames of a thread are placed, from the start of the thread to its end, when the library holds
checked behaviors only. `Underway.Warranted` says so of a tick that is under way, and that it has
told of warranted faults only. One instruction keeps both (`Underway.step_follows`), whether it
calls, returns, catches a fault or gives way, and so does a whole turn
(`Underway.runTurn_warranted`).
-/

set_option autoImplicit false

namespace Lockstep

/-! ## Placed threads -/

/-- All frames of a thread are placed. -/
def Thread.Placed (library : Library) (thread : Thread) : Prop :=
  ∀ frame ∈ thread.frames, frame.Placed library

/-- All frames of all threads are placed. -/
def ThreadTable.Placed (library : Library) (threads : ThreadTable) : Prop :=
  ∀ id thread, threads.get? id = some thread → thread.Placed library

namespace ThreadTable

variable {library : Library} {threads before after : ThreadTable}

theorem Shrinks.placed (shrinks : before.Shrinks after) (placed : before.Placed library) :
    after.Placed library :=
  fun id thread held => placed id thread (shrinks id thread held)

theorem Placed.insert (placed : threads.Placed library) (id : ThreadId) {thread : Thread}
    (new : thread.Placed library) : Placed library (Table.insert threads id thread) := by
  intro other held found
  rcases Table.eq_or_of_get?_insert found with rfl | earlier
  · exact new
  · exact placed other held earlier

theorem Placed.modify (placed : threads.Placed library) (id : ThreadId)
    {change : Thread → Thread} (changed : ∀ thread, (change thread).Placed library) :
    Placed library (Table.modify threads id change) := by
  intro other held found
  rcases Table.eq_or_of_get?_modify found with ⟨thread, rfl⟩ | earlier
  · exact changed thread
  · exact placed other held earlier

end ThreadTable

/-! ## Ticks under way -/

/-- A turn that does not end in a fault without a warrant. -/
def TurnEnd.Warranted (library : Library) : TurnEnd → Prop
  | .faulted fault => fault.Warranted library
  | _ => True

/-- An instruction that does not end the turn in a fault without a warrant. -/
def Flow.Warranted (library : Library) : Flow → Prop
  | .next => True
  | .done ending => ending.Warranted library

namespace Underway

/-- The threads of a tick under way are placed, and the faults that it has told of are warranted. -/
structure Warranted (library : Library) (underway : Underway) : Prop where
  threads : underway.state.threads.Placed library
  effects : underway.effects.Warranted library

/-- After an instruction the tick is still warranted, and the instruction did not fail without a
warrant. -/
structure Follows (library : Library) (outcome : Flow × Underway) : Prop where
  flow : outcome.1.Warranted library
  underway : outcome.2.Warranted library

variable {library : Library} {underway : Underway} {id : ThreadId}

/-! ## Ends of threads -/

theorem complete_follows (warranted : underway.Warranted library) (id : ThreadId) (result : Bool) :
    Follows library (underway.complete id result) :=
  ⟨trivial, (ThreadTable.shrinks_erase _ id).placed warranted.threads,
    warranted.effects.note .debug fun _ => ⟨id, .inl ⟨result, rfl⟩⟩⟩

theorem abort_follows (warranted : underway.Warranted library) (id : ThreadId) {fault : ThreadFault}
    (warrant : fault.Warranted library) : Follows library (underway.abort id fault) :=
  ⟨warrant, (ThreadTable.shrinks_erase _ id).placed warranted.threads,
    warranted.effects.note .warn fun _ => ⟨id, .inr ⟨fault, warrant, .inl rfl⟩⟩⟩

theorem caught_warranted {caught : List ThreadFault} (id : ThreadId)
    (warrants : ∀ fault ∈ caught, fault.Warranted library) {effects : Effects}
    (warranted : effects.Warranted library) :
    (caught.foldl (catchFault id) effects).Warranted library := by
  induction caught generalizing effects with
  | nil => exact warranted
  | cons fault rest inductionHypothesis =>
    obtain ⟨warrant, others⟩ := List.forall_mem_cons.mp warrants
    refine inductionHypothesis others ?_
    have noted := warranted.note .debug fun _ => ⟨id, .inr ⟨fault, warrant, .inr rfl⟩⟩
    exact noted.say fun _ => ⟨id, fault, warrant, rfl⟩

theorem land_follows (warranted : underway.Warranted library) (id : ThreadId)
    (temps : Vector Int16 8) {unwinding : Unwinding} (unwound : unwinding.Warranted library) :
    Follows library (underway.land id temps unwinding) := by
  obtain ⟨caught, landing⟩ := unwinding
  obtain ⟨warrants, landed⟩ := unwound
  have noted : Warranted library
      { underway with effects := caught.foldl (catchFault id) underway.effects } :=
    ⟨warranted.threads, caught_warranted id warrants warranted.effects⟩
  rw [land]
  cases landing with
  | resumed frames => exact ⟨trivial, warranted.threads.modify id fun _ => landed, noted.effects⟩
  | completed result => exact complete_follows noted id result
  | aborted fault => exact abort_follows noted id landed

/-! ## Removals -/

/-- What is told of a removal is not about threads. -/
theorem despawn_effects {state next : State} {entity : EntityId} {trace : List TraceEntry}
    (gone : state.despawn entity = some (trace, next)) {effects : Effects}
    (warranted : effects.Warranted library) : (effects.addTrace trace).Warranted library := by
  obtain ⟨removed, _, same⟩ := Option.map_eq_some_iff.mp gone
  obtain ⟨rfl, _⟩ := Prod.mk.inj same
  refine warranted.trace fun level text member tells => ?_
  rcases List.mem_append.mp member with sound | note
  · obtain ⟨channel, _, same⟩ := List.mem_map.mp sound
    cases same
  · obtain ⟨-, rfl⟩ := TraceEntry.note.inj (List.mem_singleton.mp note)
    have aside : Aside ("despawned " ++ entity.text ++ " (" ++ removed.name ++ ")") :=
      (((Aside.append (by decide +kernel) _).append _).append _).append _
    exact absurd tells aside.not_tells

theorem remove_warranted (warranted : underway.Warranted library) (entity : EntityId) :
    (underway.remove entity).Warranted library := by
  rw [remove]
  cases gone : underway.state.despawn entity with
  | none => exact warranted
  | some despawned =>
    refine ⟨(State.shrinks_despawn gone).placed warranted.threads, ?_⟩
    exact (despawn_effects gone warranted.effects).sayAside (.append (by decide +kernel) _)

theorem removals_warranted (warranted : underway.Warranted library) (removals : List EntityId) :
    (removals.foldl remove underway).Warranted library := by
  induction removals generalizing underway with
  | nil => exact warranted
  | cons entity rest inductionHypothesis =>
    exact inductionHypothesis (remove_warranted warranted entity)

/-! ## Instructions -/

/-- A warranted fault leaves the innermost frame. -/
theorem fail_follows (checked : library.Checked) (warranted : underway.Warranted library)
    {callers : List StackFrame} (placed : ∀ frame ∈ callers, frame.Placed library)
    (temps : Vector Int16 8) (catches : Bool) {fault : ThreadFault}
    (warrant : fault.Warranted library) :
    Follows library (underway.land id temps (unwind library catches callers (.failed fault))) :=
  land_follows warranted id temps (unwind_warranted checked placed catches warrant)

/-- Nothing but the behavior that is called can be missing. -/
theorem refusal_warranted (checked : library.Checked) {frame : StackFrame} {fault : ThreadFault}
    (placed : frame.Placed library) (refusal : frame.Refuses library fault) :
    fault.Warranted library := by
  cases refusal with
  | missingBehavior absent =>
    obtain ⟨behavior, loaded, _⟩ := placed
    exact absurd (Library.contains_iff.mpr ⟨behavior, loaded⟩) (by simp [absent])
  | unknownOpcode found failed =>
    obtain ⟨operand, decodes⟩ := checked.decodes found
    exact absurd (failed.symm.trans decodes) (by simp)
  | missingCallee found decoded absent =>
    exact ⟨_, ⟨_, found, decoded⟩, rfl, Library.get?_of_not_contains (by simp [absent])⟩

/-- A frame that cannot go on is past the end of a behavior without instructions, or at a call. -/
theorem failure_warranted (checked : library.Checked) {frame : StackFrame}
    {callers : List StackFrame} {fault : ThreadFault} (placed : frame.Placed library)
    (failure : frame.Fails library callers fault) : fault.Warranted library := by
  cases failure with
  | pastEnd loaded absent => exact placed.empty absent
  | malformedOperand found failed =>
    obtain ⟨operand, decodes⟩ := checked.decodes found
    exact absurd (failed.symm.trans decodes) (by simp)
  | stackOverflow found decoded => exact ⟨_, _, found, decoded⟩

section

variable {temps : Vector Int16 8} {frame : StackFrame} {callers : List StackFrame}
  {instruction : Instruction} {action : Primitive} {exit : Exit} {context : Context}
  (performs : Performs library id underway temps frame callers instruction action exit context)

include performs

theorem Performs.discreet :
    Primitive.Discreet library ((Fetched.top temps frame callers).context id underway)
      (exit, context) := by
  have discreet : Primitive.Discreet library
      ((Fetched.top temps frame callers).context id underway) _ :=
    action.run_discreet frame.pending
  rw [performs.ran] at discreet
  exact discreet

theorem Performs.warranted (warranted : underway.Warranted library) :
    (context.settled underway.state).Warranted library := by
  have acted : (context.within underway.state).Warranted library :=
    ⟨warranted.threads, performs.discreet.told warranted.effects⟩
  exact removals_warranted acted context.removals

end

theorem Outcome.follows {thread : Thread} {after : Flow × Underway}
    (outcome : Outcome library id underway thread after) (checked : library.Checked)
    (warranted : underway.Warranted library) (placed : thread.Placed library) :
    Follows library after := by
  cases outcome with
  | completes => exact complete_follows warranted id true
  | refuses refusal =>
    obtain ⟨here, _⟩ := List.forall_mem_cons.mp placed
    exact abort_follows warranted id (refusal_warranted checked here refusal)
  | fails failure =>
    obtain ⟨here, below⟩ := List.forall_mem_cons.mp placed
    exact fail_follows checked warranted below _ _ (failure_warranted checked here failure)
  | calls found decoded loaded shallow =>
    obtain ⟨behavior, loaded⟩ := Library.contains_iff.mp loaded
    obtain ⟨here, below⟩ := List.forall_mem_cons.mp placed
    refine land_follows warranted id _ ⟨by simp, List.forall_mem_cons.mpr ⟨?_, ?_⟩⟩
    · exact StackFrame.placed_of_start loaded rfl
    · exact List.forall_mem_cons.mpr ⟨here, below⟩
  | vanishes performs gone => exact ⟨trivial, performs.warranted warranted⟩
  | @branches _ _ _ _ _ _ result _ performs remains =>
    obtain ⟨_, below⟩ := List.forall_mem_cons.mp placed
    have followed := follow_warranted checked performs.still below result
    exact land_follows (performs.warranted warranted) id _ followed
  | @faults _ _ _ _ instruction action fault context performs remains =>
    obtain ⟨_, below⟩ := List.forall_mem_cons.mp placed
    have accepts (expected : PrimitiveKind) (same : fault = .operandMismatch expected) : False :=
      performs.discreet.accepts expected (congrArg Exit.fault same)
    have holds : context.frame.place.Holds library (.primitive action) :=
      ⟨instruction, performs.still, performs.decoded⟩
    have settled := performs.warranted warranted
    exact fail_follows checked settled below _ _ ⟨⟨action, holds, rfl⟩, accepts⟩
  | @yields _ _ _ callers _ _ progress context performs remains =>
    obtain ⟨_, below⟩ := List.forall_mem_cons.mp placed
    have settled := performs.warranted warranted
    have here := StackFrame.placed_of_instruction performs.still
    have changed (held : Thread) : Thread.Placed library { held with
        temps := context.temps
        frames := { context.frame with pending := some progress } :: callers } :=
      List.forall_mem_cons.mpr ⟨here, below⟩
    exact ⟨trivial, settled.threads.modify id changed, settled.effects⟩

/-- **An instruction fails with a warrant or not at all**, and leaves placed frames. -/
theorem step_follows (checked : library.Checked) (warranted : underway.Warranted library)
    (id : ThreadId) {thread : Thread} (placed : thread.Placed library) :
    Follows library (step library id thread underway) :=
  (step_outcome library id thread underway).follows checked warranted placed

/-! ## Turns -/

theorem Turn.warranted {budget : UInt32} {count : Nat} {executed : List (Thread × Underway)}
    {outcome : TurnEnd × Underway} (turn : Turn library budget id count underway executed outcome)
    (checked : library.Checked) (warranted : underway.Warranted library) :
    outcome.1.Warranted library ∧ outcome.2.Warranted library := by
  induction turn with
  | absent gone => exact ⟨trivial, warranted⟩
  | exhausted present =>
    have exhausted : (ThreadFault.budgetExceeded budget).Warranted library := trivial
    exact ⟨exhausted, (abort_follows warranted id exhausted).underway⟩
  | @ends _ now after thread ending found stepped =>
    have follows := step_follows checked warranted id (warranted.threads id thread found)
    rw [stepped] at follows
    exact ⟨follows.flow, follows.underway⟩
  | @goesOn _ now after thread _ _ found stepped _ inductionHypothesis =>
    have follows := step_follows checked warranted id (warranted.threads id thread found)
    rw [stepped] at follows
    exact inductionHypothesis follows.underway

/-- **A turn fails with a warrant or not at all**, and leaves placed threads. -/
theorem runTurn_warranted (checked : library.Checked) (budget : UInt32) (id : ThreadId)
    (warranted : underway.Warranted library) :
    (runTurn library budget id underway).1.Warranted library ∧
      (runTurn library budget id underway).2.Warranted library :=
  (turn_executions library budget id budget.toNat underway).warranted checked warranted

end Underway
end Lockstep
