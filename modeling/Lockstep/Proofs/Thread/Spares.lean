import Lockstep.Proofs.Thread.Executions
import Lockstep.Proofs.Thread.Outcomes

/-!
# Threads that a turn spares

A turn is about one thread. It starts no thread, and none of the others changes, though some may go
together with their owners (`Underway.spares_runTurn`). That needs nothing of the thread: whatever
its frames are, and whether or not its behaviors are loaded, an instruction writes no other thread
than its own.
-/

set_option autoImplicit false

namespace Lockstep

/-- No thread is new, and none that is still there has changed, but for one thread. -/
def ThreadTable.Spares (id : ThreadId) (before after : ThreadTable) : Prop :=
  ∀ other thread, other ≠ id → after.get? other = some thread → before.get? other = some thread

/-- No thread is new, and none that is still there has changed. -/
def ThreadTable.Shrinks (before after : ThreadTable) : Prop :=
  ∀ id thread, after.get? id = some thread → before.get? id = some thread

namespace ThreadTable

variable {before middle after : ThreadTable} {id : ThreadId}

theorem Shrinks.refl (threads : ThreadTable) : threads.Shrinks threads := fun _ _ held => held

theorem Shrinks.trans (start : before.Shrinks middle) (rest : middle.Shrinks after) :
    before.Shrinks after :=
  fun id thread held => start id thread (rest id thread held)

theorem Shrinks.spares (shrinks : before.Shrinks after) : Spares id before after :=
  fun other thread _ held => shrinks other thread held

theorem Spares.trans (start : Spares id before middle) (rest : Spares id middle after) :
    Spares id before after :=
  fun other thread apart held => start other thread apart (rest other thread apart held)

theorem spares_modify (threads : ThreadTable) (id : ThreadId) (change : Thread → Thread) :
    Spares id threads (threads.modify id change) := by
  intro other held apart found
  rwa [Table.get?_modify_of_ne _ apart] at found

theorem shrinks_erase (threads : ThreadTable) (id : ThreadId) :
    Shrinks threads (threads.erase id) := by
  intro other thread held
  exact (Table.get?_erase_eq_some_iff.mp held).2

theorem shrinks_eraseThreads (threads : ThreadTable) (ids : List ThreadId) :
    Shrinks threads (State.eraseThreads threads ids) := by
  rw [State.eraseThreads]
  induction ids generalizing threads with
  | nil => exact .refl threads
  | cons id rest inductionHypothesis =>
    rw [List.foldl_cons]
    exact (shrinks_erase threads id).trans (inductionHypothesis (threads.erase id))

end ThreadTable

theorem State.shrinks_despawn {state next : State} {id : EntityId} {trace : List TraceEntry}
    (gone : state.despawn id = some (trace, next)) : state.threads.Shrinks next.threads := by
  obtain ⟨entity, _, same⟩ := Option.map_eq_some_iff.mp gone
  obtain ⟨_, rfl⟩ := Prod.mk.inj same
  exact ThreadTable.shrinks_eraseThreads state.threads entity.threads

namespace Underway

variable {library : Library}

/-! ## Ends of threads and removals -/

theorem spares_complete (underway : Underway) (id : ThreadId) (result : Bool) :
    ThreadTable.Spares id underway.state.threads (underway.complete id result).2.state.threads :=
  (ThreadTable.shrinks_erase underway.state.threads id).spares

theorem spares_abort (underway : Underway) (id : ThreadId) (fault : ThreadFault) :
    ThreadTable.Spares id underway.state.threads (underway.abort id fault).2.state.threads :=
  (ThreadTable.shrinks_erase underway.state.threads id).spares

theorem spares_land (underway : Underway) (id : ThreadId) (temps : Vector Int16 8)
    (unwinding : Unwinding) :
    ThreadTable.Spares id underway.state.threads
      (underway.land id temps unwinding).2.state.threads := by
  rw [land]
  cases unwinding.landing with
  | resumed frames => exact ThreadTable.spares_modify underway.state.threads id _
  | completed result => exact spares_complete _ id result
  | aborted fault => exact spares_abort _ id fault

theorem remove_shrinks (underway : Underway) (id : EntityId) :
    underway.state.threads.Shrinks (underway.remove id).state.threads := by
  rw [remove]
  cases gone : underway.state.despawn id with
  | none => exact .refl _
  | some removed => exact State.shrinks_despawn gone

theorem removals_shrink (underway : Underway) (removals : List EntityId) :
    underway.state.threads.Shrinks (removals.foldl remove underway).state.threads := by
  induction removals generalizing underway with
  | nil => exact .refl _
  | cons id rest inductionHypothesis =>
    exact (remove_shrinks underway id).trans (inductionHypothesis _)

/-- A primitive reaches no thread, so only the removals take some away. -/
theorem settled_shrinks (context : Context) (state : State) :
    state.threads.Shrinks (context.settled state).state.threads :=
  removals_shrink (context.within state) context.removals

/-! ## Instructions and turns -/

theorem Outcome.spares {id : ThreadId} {before : Underway} {thread : Thread}
    {after : Flow × Underway} (outcome : Outcome library id before thread after) :
    ThreadTable.Spares id before.state.threads after.2.state.threads := by
  have performed (context : Context) {threads : ThreadTable}
      (placed : ThreadTable.Spares id (context.settled before.state).state.threads threads) :
      ThreadTable.Spares id before.state.threads threads :=
    (settled_shrinks context before.state).spares.trans placed
  cases outcome with
  | completes own temps => exact spares_complete before id true
  | refuses refusal => exact spares_abort before id _
  | @fails _ temps _ _ _ failure => exact spares_land before id temps _
  | @calls _ temps => exact spares_land before id temps _
  | @vanishes _ _ _ _ _ _ _ context => exact (settled_shrinks context before.state).spares
  | @branches _ _ _ _ _ _ _ context => exact performed context (spares_land _ id context.temps _)
  | @faults _ _ _ _ _ _ _ context => exact performed context (spares_land _ id context.temps _)
  | @yields _ _ _ _ _ _ _ context => exact performed context (ThreadTable.spares_modify _ id _)

/-- **An instruction spares all threads but its own.** -/
theorem spares_step (id : ThreadId) (thread : Thread) (underway : Underway) :
    ThreadTable.Spares id underway.state.threads
      (step library id thread underway).2.state.threads :=
  (step_outcome library id thread underway).spares

/-- **A turn spares all threads but its own.** -/
theorem spares_runTurn (budget : UInt32) (id : ThreadId) (underway : Underway) :
    ThreadTable.Spares id underway.state.threads
      (runTurn library budget id underway).2.state.threads := by
  let leadsTo (before after : Underway) : Prop :=
    ThreadTable.Spares id before.state.threads after.state.threads
  have led := (turn_executions library budget id budget.toNat underway).leads leadsTo
    (fun now => (ThreadTable.Shrinks.refl now.state.threads).spares) .trans
    (fun _ => spares_step id _ _) (fun now fault => spares_abort now id fault)
  exact led.2

end Underway
end Lockstep
