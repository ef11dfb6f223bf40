import Lockstep.Proofs.State.Lasting
import Lockstep.Proofs.Thread.Listed
import Lockstep.Proofs.Tick.Edited

/-!
# The two parts of an instruction

An instruction may first act on the world (`State.Acts`): it carries a primitive out, and then the
removals that this has asked for. After that its own thread is put somewhere else, or removed
(`State.Places`). That is all that an instruction does (`Underway.step_parts`), so what it does to
anything but its thread is what primitives and removals do to it.
-/

set_option autoImplicit false

namespace Lockstep

open Underway (Fetched)

/-- The tick after a primitive has been carried out, and then the removals that it has asked for. -/
def Underway.acted (underway : Underway) (id : ThreadId) (fetched : Fetched)
    (action : Primitive) : Underway :=
  let context := (action.run fetched.resumed (fetched.context id underway)).2
  context.removals.foldl remove (context.within underway.state)

/-- What an instruction of a thread does to the world. -/
inductive State.Acts (id : ThreadId) : State → State → Prop where
  | idle (state : State) : Acts id state state
  | performs (underway : Underway) (fetched : Fetched) (action : Primitive) :
      Acts id underway.state (underway.acted id fetched action).state

/-- What becomes of the thread itself. -/
inductive State.Places (id : ThreadId) : State → State → Prop where
  | leaves (state : State) : Places id state state
  | puts (state : State) (temps : Vector Int16 8) (frames : List StackFrame) :
      Places id state
        { state with
          threads := state.threads.modify id fun thread => { thread with temps, frames } }
  | removes (state : State) : Places id state (state.removeThread id)

namespace Underway

variable {library : Library} {underway : Underway} {id : ThreadId}

theorem land_places (underway : Underway) (id : ThreadId) (temps : Vector Int16 8)
    (unwinding : Unwinding) :
    underway.state.Places id (underway.land id temps unwinding).2.state := by
  rw [land]
  cases unwinding.landing with
  | resumed frames => exact .puts underway.state temps frames
  | completed result => exact .removes underway.state
  | aborted fault => exact .removes underway.state

/-- The primitive that is carried out, and then the removals that it has asked for. -/
theorem Performs.acts {before : Underway} {temps : Vector Int16 8} {frame : StackFrame}
    {callers : List StackFrame} {instruction : Instruction} {action : Primitive} {exit : Exit}
    {context : Context}
    (performs : Performs library id before temps frame callers instruction action exit context) :
    before.state.Acts id (context.settled before.state).state := by
  have acts : before.state.Acts id (before.acted id (.top temps frame callers) action).state :=
    .performs before (.top temps frame callers) action
  have ran : action.run (Fetched.top temps frame callers).resumed
    ((Fetched.top temps frame callers).context id before) = (exit, context) := performs.ran
  rw [acted, ran] at acts
  exact acts

/-- A thread that is still there after what its primitive has removed is put where it goes on. -/
theorem Outcome.parts {before : Underway} {thread : Thread} {after : Flow × Underway}
    (outcome : Outcome library id before thread after) :
    ∃ acted, before.state.Acts id acted ∧ acted.Places id after.2.state := by
  have idle : before.state.Acts id before.state := .idle before.state
  cases outcome with
  | completes => exact ⟨_, idle, .removes before.state⟩
  | refuses refusal => exact ⟨_, idle, .removes before.state⟩
  | fails failure => exact ⟨_, idle, land_places before id _ _⟩
  | calls => exact ⟨_, idle, land_places before id _ _⟩
  | vanishes performs gone => exact ⟨_, performs.acts, .leaves _⟩
  | branches performs remains => exact ⟨_, performs.acts, land_places _ id _ _⟩
  | faults performs remains => exact ⟨_, performs.acts, land_places _ id _ _⟩
  | yields performs remains => exact ⟨_, performs.acts, .puts _ _ _⟩

/-- **An instruction acts on the world, and then places its thread.** -/
theorem step_parts (library : Library) (id : ThreadId) (thread : Thread) (underway : Underway) :
    ∃ acted, underway.state.Acts id acted ∧
      acted.Places id (step library id thread underway).2.state :=
  (step_outcome library id thread underway).parts

end Underway

/-! ## Other threads -/

/-- Nobody comes. A thread is as it was, or it has gone together with its owner. -/
structure State.Retains (id : ThreadId) (before after : State) : Prop where
  entities : before.entities.Lasts after.entities
  thread : after.threads.get? id = before.threads.get? id ∨
    after.threads.get? id = none ∧ before.entities.contains id.owner = true ∧
      ¬ after.entities.contains id.owner = true

namespace State

variable {before middle after state : State} {id other : ThreadId}

theorem Retains.refl (id : ThreadId) (state : State) : Retains id state state :=
  ⟨.refl _, .inl rfl⟩

theorem Retains.trans (start : Retains id before middle) (rest : Retains id middle after) :
    Retains id before after := by
  refine ⟨start.entities.trans rest.entities, ?_⟩
  obtain same | ⟨gone, alive, dead⟩ := rest.thread
  · obtain kept | ⟨gone, alive, dead⟩ := start.thread
    · exact .inl (same.trans kept)
    · exact .inr ⟨same.trans gone, alive, fun back => dead (rest.entities.contains back)⟩
  · exact .inr ⟨gone, start.entities.contains alive, dead⟩

/-- A thread goes together with its owner only. -/
theorem retains_despawn (sound : before.ListsSound) {entity : EntityId} {trace : List TraceEntry}
    (despawned : before.despawn entity = some (trace, after)) (id : ThreadId) :
    Retains id before after := by
  have lasts := (Edit.despawn despawned).lasts (entitiesMade_heard _)
  obtain ⟨gone, found, _, rfl⟩ := despawn_eq despawned
  refine ⟨lasts, ?_⟩
  show (eraseThreads before.threads gone.threads).get? id = _ ∨
    (eraseThreads before.threads gone.threads).get? id = none ∧ _
  rw [get?_eraseThreads]
  by_cases listed : id ∈ gone.threads
  · have own : before.threadsOf entity = gone.threads := EntityTable.field_of_get? found _ _
    obtain rfl := sound.owned entity id (own ▸ listed)
    refine .inr ⟨if_pos listed, Table.contains_of_get? found, fun alive => ?_⟩
    rw [contains_cutLinks] at alive
    exact (EntityTable.contains_erase_iff.mp alive).1 rfl
  · exact .inl (if_neg listed)

end State

theorem Underway.Edited.listsSound {before after : Underway} {entities threads : Nat}
    (edited : before.Edited entities threads after) (sound : before.state.ListsSound) :
    after.state.ListsSound := by
  obtain ⟨_, ⟨deeds, edits, _⟩, _⟩ := edited
  exact edits.keep sound fun edit => edit.listsSound

namespace Underway

variable {underway : Underway}

theorem remove_retains (sound : underway.state.ListsSound) (entity : EntityId) (id : ThreadId) :
    State.Retains id underway.state (underway.remove entity).state := by
  rw [remove]
  cases gone : underway.state.despawn entity with
  | none => exact .refl id _
  | some removed => exact State.retains_despawn sound gone id

theorem removals_retain (sound : underway.state.ListsSound) (removals : List EntityId)
    (id : ThreadId) : State.Retains id underway.state (removals.foldl remove underway).state := by
  induction removals generalizing underway with
  | nil => exact .refl id _
  | cons entity rest inductionHypothesis =>
    have removed := (edited_remove underway entity).listsSound sound
    exact (remove_retains sound entity id).trans (inductionHypothesis removed)

/-- A primitive reaches no thread, and what it removes takes its threads along. -/
theorem acted_retains (sound : underway.state.ListsSound) (id other : ThreadId)
    (fetched : Fetched) (action : Primitive) :
    State.Retains other underway.state (underway.acted id fetched action).state := by
  let after := (action.run fetched.resumed (fetched.context id underway)).2
  have edited : Context.Edited underway.state (fetched.context id underway) after :=
    action.run_edited fetched.resumed
  have lasts : underway.state.entities.Lasts after.entities := by
    obtain ⟨_, changed, _⟩ := edited
    exact changed.lasts
  have acts : State.Retains other underway.state (after.within underway.state).state :=
    ⟨lasts, .inl rfl⟩
  exact acts.trans (removals_retain (edited.listsSound sound) after.removals other)

end Underway

namespace State

variable {before after : State} {id other : ThreadId}

theorem Acts.retains (acts : before.Acts id after) (sound : before.ListsSound)
    (other : ThreadId) : Retains other before after := by
  cases acts with
  | idle => exact .refl other _
  | performs underway fetched action =>
    exact Underway.acted_retains sound id other fetched action

theorem Places.retains (places : before.Places id after) (apart : other ≠ id) :
    Retains other before after := by
  cases places with
  | leaves => exact .refl other _
  | puts temps frames => exact ⟨.refl _, .inl (Table.get?_modify_of_ne _ apart _)⟩
  | removes =>
    refine ⟨.modify fun _ _ => ⟨rfl, rfl, rfl, .inl rfl⟩, .inl ?_⟩
    exact Table.get?_erase_of_ne _ apart

end State

namespace Underway

variable {library : Library} {underway : Underway} {id other : ThreadId}

/-- **An instruction leaves all threads but its own as they are**, or they go with their owners. -/
theorem step_retains (sound : underway.state.ListsSound) (thread : Thread) (apart : other ≠ id) :
    State.Retains other underway.state (step library id thread underway).2.state := by
  obtain ⟨acted, acts, places⟩ := step_parts library id thread underway
  exact (acts.retains sound other).trans (places.retains apart)

theorem Turn.retains {budget : UInt32} {count : Nat} {executed : List (Thread × Underway)}
    {outcome : TurnEnd × Underway} (turn : Turn library budget id count underway executed outcome)
    (sound : underway.state.ListsSound) (apart : other ≠ id) :
    State.Retains other underway.state outcome.2.state := by
  induction turn with
  | absent gone => exact .refl other _
  | exhausted present => exact State.Places.retains (.removes _) apart
  | @ends _ now after thread ending found stepped =>
    have retained := @step_retains library now id other sound thread apart
    rw [stepped] at retained
    exact retained
  | @goesOn _ now after thread _ _ found stepped _ inductionHypothesis =>
    have retained := @step_retains library now id other sound thread apart
    have still := (@edited_step library id thread now).listsSound sound
    rw [stepped] at retained still
    exact retained.trans (inductionHypothesis still)

/-- **A turn leaves all threads but its own as they are**, or they go with their owners. -/
theorem runTurn_retains (budget : UInt32) (sound : underway.state.ListsSound) (apart : other ≠ id) :
    State.Retains other underway.state (runTurn library budget id underway).2.state :=
  (turn_executions library budget id budget.toNat underway).retains sound apart

end Underway
end Lockstep
