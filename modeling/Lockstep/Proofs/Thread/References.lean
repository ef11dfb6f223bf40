import Lockstep.Proofs.Thread.Exits
import Lockstep.Proofs.Thread.Leaves

/-!
# References of threads

The frames of threads refer to entities: to stack objects and to callers. They do so for as long as
they wait, whatever becomes of those entities. But an instruction never makes up a reference. What
the frames refer to after it, some frame referred to before, or it is alive
(`Underway.step_refers`).
-/

set_option autoImplicit false

namespace Lockstep

/-- A frame refers to an entity, as its stack object or as its caller. -/
def StackFrame.Refers (frame : StackFrame) (id : EntityId) : Prop :=
  frame.stackObject = some id ∨ frame.caller = some id

/-- A frame refers to known entities only. -/
def StackFrame.Knows (known : EntityId → Prop) (frame : StackFrame) : Prop :=
  ∀ id, frame.Refers id → known id

/-- A frame of some thread refers to an entity. -/
def ThreadTable.Refers (threads : ThreadTable) (id : EntityId) : Prop :=
  ∃ owner thread, threads.get? owner = some thread ∧ ∃ frame ∈ thread.frames, frame.Refers id

/-- All frames of all threads refer to known entities only. -/
def ThreadTable.Knows (known : EntityId → Prop) (threads : ThreadTable) : Prop :=
  ∀ id thread, threads.get? id = some thread → ∀ frame ∈ thread.frames, frame.Knows known

variable {known : EntityId → Prop}

/-! ## Frames -/

namespace StackFrame

theorem Knows.jump {frame : StackFrame} (knows : frame.Knows known) (index : UInt8) :
    (frame.jump index).Knows known := knows

end StackFrame

/-- The frames with which a thread goes on, if it does, refer to known entities only. -/
def Landing.Knows (known : EntityId → Prop) (landing : Landing) : Prop :=
  ∀ frames, landing = .resumed frames → ∀ frame ∈ frames, frame.Knows known

theorem Landing.knows_resumed {frames : List StackFrame}
    (knows : ∀ frame ∈ frames, frame.Knows known) : (resumed frames).Knows known := by
  intro same equal
  exact Landing.resumed.inj equal ▸ knows

/-- Leaving frames keeps those that are left. -/
theorem unwind_knows (library : Library) (catches : Bool) {callers : List StackFrame}
    (knows : ∀ frame ∈ callers, frame.Knows known) (resolution : Resolution) :
    (unwind library catches callers resolution).landing.Knows known := by
  intro frames resumed
  obtain ⟨left, frame, rest, instruction, result, rfl, _, rfl⟩ := unwind_resumed resumed
  obtain ⟨here, below⟩ := List.forall_mem_cons.mp (List.forall_mem_append.mp knows).2
  exact List.forall_mem_cons.mpr ⟨here.jump _, below⟩

theorem follow_knows (library : Library) {frame : StackFrame} {callers : List StackFrame}
    (here : frame.Knows known) (below : ∀ caller ∈ callers, caller.Knows known)
    (target : UInt8) : (frame.follow library callers target).landing.Knows known := by
  rw [StackFrame.follow]
  split
  · exact Landing.knows_resumed (List.forall_mem_cons.mpr ⟨here.jump _, below⟩)
  · exact unwind_knows library _ below _

/-! ## Tables -/

namespace ThreadTable

variable {before after threads : ThreadTable}

theorem Shrinks.knows (shrinks : before.Shrinks after) (knows : before.Knows known) :
    after.Knows known :=
  fun id thread held => knows id thread (shrinks id thread held)

theorem Shrinks.refers (shrinks : before.Shrinks after) {id : EntityId} (refers : after.Refers id) :
    before.Refers id := by
  obtain ⟨owner, thread, found, frame⟩ := refers
  exact ⟨owner, thread, shrinks owner thread found, frame⟩

theorem Knows.modify (knows : threads.Knows known) (id : ThreadId) {change : Thread → Thread}
    (changed : ∀ thread, ∀ frame ∈ (change thread).frames, frame.Knows known) :
    Knows known (Table.modify threads id change) := by
  intro other held found
  rcases Table.eq_or_of_get?_modify found with ⟨thread, rfl⟩ | earlier
  · exact changed thread
  · exact knows other held earlier

/-- What is referred to when one more thread has come. -/
theorem refers_insert {id : ThreadId} {thread : Thread} {entity : EntityId}
    (refers : Refers (Table.insert threads id thread) entity) :
    (∃ frame ∈ thread.frames, frame.Refers entity) ∨ threads.Refers entity := by
  obtain ⟨owner, held, found, frame⟩ := refers
  rcases Table.eq_or_of_get?_insert found with rfl | earlier
  · exact .inl frame
  · exact .inr ⟨owner, held, earlier, frame⟩

theorem knows_iff : threads.Knows known ↔ ∀ id, threads.Refers id → known id := by
  constructor
  · rintro knows id ⟨owner, thread, found, frame, member, refers⟩
    exact knows owner thread found frame member id refers
  · intro knows owner thread found frame member id refers
    exact knows id ⟨owner, thread, found, frame, member, refers⟩

end ThreadTable

/-! ## Instructions -/

namespace Underway

variable {library : Library} {underway : Underway} {id : ThreadId}

theorem abort_knows (knows : underway.state.threads.Knows known) (fault : ThreadFault) :
    (underway.abort id fault).2.state.threads.Knows known :=
  (ThreadTable.shrinks_erase underway.state.threads id).knows knows

theorem land_knows (knows : underway.state.threads.Knows known) (temps : Vector Int16 8)
    {unwinding : Unwinding} (landed : unwinding.landing.Knows known) :
    (underway.land id temps unwinding).2.state.threads.Knows known := by
  obtain ⟨caught, landing⟩ := unwinding
  rw [land]
  cases landing with
  | resumed frames => exact knows.modify id fun _ => landed frames rfl
  | completed result => exact (ThreadTable.shrinks_erase underway.state.threads id).knows knows
  | aborted fault => exact (ThreadTable.shrinks_erase underway.state.threads id).knows knows

/-- A primitive may choose another stack object, which is alive. -/
theorem Performs.knows {before : Underway} {temps : Vector Int16 8} {frame : StackFrame}
    {callers : List StackFrame} {instruction : Instruction} {action : Primitive} {exit : Exit}
    {context : Context}
    (performs : Performs library id before temps frame callers instruction action exit context)
    (alive : ∀ id, before.state.entities.contains id = true → known id)
    (knows : frame.Knows known) : context.frame.Knows known := by
  intro entity refers
  obtain object | caller := refers
  · obtain kept | live := performs.chooses
    · exact knows entity (.inl (kept.symm.trans object))
    · exact alive entity (live entity object)
  · obtain ⟨locals, params, stackObject, after⟩ := performs.sameCall
    rw [after] at caller
    exact knows entity (.inr caller)

theorem Outcome.knows {before : Underway} {thread : Thread} {after : Flow × Underway}
    (outcome : Outcome library id before thread after)
    (alive : ∀ id, before.state.entities.contains id = true → known id)
    (knows : before.state.threads.Knows known)
    (frames : ∀ frame ∈ thread.frames, frame.Knows known) :
    after.2.state.threads.Knows known := by
  have settled (context : Context) :
      (context.settled before.state).state.threads.Knows known :=
    (settled_shrinks context before.state).knows knows
  cases outcome with
  | completes => exact (ThreadTable.shrinks_erase before.state.threads id).knows knows
  | refuses refusal => exact abort_knows knows _
  | fails failure =>
    obtain ⟨_, below⟩ := List.forall_mem_cons.mp frames
    exact land_knows knows _ (unwind_knows library _ below _)
  | calls =>
    -- A called frame has the caller and the stack object of the frame that calls it.
    obtain ⟨here, below⟩ := List.forall_mem_cons.mp frames
    refine land_knows knows _ (Landing.knows_resumed (List.forall_mem_cons.mpr ⟨here, ?_⟩))
    exact List.forall_mem_cons.mpr ⟨here, below⟩
  | vanishes performs gone => exact settled _
  | branches performs remains =>
    obtain ⟨here, below⟩ := List.forall_mem_cons.mp frames
    exact land_knows (settled _) _ (follow_knows library (performs.knows alive here) below _)
  | faults performs remains =>
    obtain ⟨_, below⟩ := List.forall_mem_cons.mp frames
    exact land_knows (settled _) _ (unwind_knows library _ below _)
  | yields performs remains =>
    obtain ⟨here, below⟩ := List.forall_mem_cons.mp frames
    have worked := performs.knows alive here
    exact (settled _).modify id fun _ => List.forall_mem_cons.mpr ⟨worked, below⟩

/-- **An instruction does not make up references**: where frames referred to known entities, and all
that are alive are known, frames refer to known entities. -/
theorem step_knows (alive : ∀ id, underway.state.entities.contains id = true → known id)
    (knows : underway.state.threads.Knows known) {thread : Thread}
    (found : underway.state.threads.get? id = some thread) :
    (step library id thread underway).2.state.threads.Knows known :=
  (step_outcome library id thread underway).knows alive knows (knows id thread found)

/-- What frames refer to after an instruction, some frame referred to before, or it was alive. -/
theorem step_refers {thread : Thread} (found : underway.state.threads.get? id = some thread)
    {entity : EntityId} (refers : (step library id thread underway).2.state.threads.Refers entity) :
    underway.state.threads.Refers entity ∨ underway.state.entities.contains entity = true := by
  let known (entity : EntityId) : Prop :=
    underway.state.threads.Refers entity ∨ underway.state.entities.contains entity = true
  have knows : underway.state.threads.Knows known := ThreadTable.knows_iff.mpr fun _ => .inl
  have after : (step library id thread underway).2.state.threads.Knows known :=
    step_knows (fun _ => .inr) knows found
  exact ThreadTable.knows_iff.mp after entity refers

end Underway
end Lockstep
