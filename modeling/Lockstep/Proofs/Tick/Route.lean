import Lockstep.Proofs.State.Passage
import Lockstep.Proofs.Tick.Advance
import Lockstep.Proofs.Tick.Starts

/-!
# The route of a tick

A tick leads from one state to another through the states of its moments. Each small step of it, a
command or an instruction, the removal of a thread at the end of its turn and the end of the tick,
gives out at most one identity and refers to nobody who was not there (`State.Advances.passes`).
-/

set_option autoImplicit false

namespace Lockstep

namespace Underway

variable {before after : Underway} {library : Library} {id : ThreadId}

/-- A step that gives nothing out. -/
theorem Edited.passes (edited : before.Edited 0 0 after)
    (frames : ∀ id, after.state.threads.Refers id →
      before.state.threads.Refers id ∨ before.state.entities.contains id = true) :
    before.state.Passes after.state := by
  obtain ⟨events, changed, _⟩ := edited
  exact changed.passes frames

theorem Edited.passes_of_shrinks (edited : before.Edited 0 0 after)
    (shrinks : before.state.threads.Shrinks after.state.threads) :
    before.state.Passes after.state :=
  edited.passes fun _ refers => .inl (shrinks.refers refers)

/-! ## Commands -/

theorem Applied.passes {settings : Settings} {client : ClientId} {action : CommandAction}
    (applied : Applied library settings client before action after) :
    before.state.Passes after.state := by
  have edited := applied.edited
  cases applied with
  | @joins name avatar made vacant spawned =>
    obtain ⟨events, changed, _⟩ := edited
    obtain ⟨threads, found⟩ := before.state.get?_spawn .avatar name settings.avatar
    have kept := before.state.avatars_spawn .avatar name settings.avatar
    rw [spawned] at found kept
    refine State.spawn_passes spawned changed (.modify fun entity held => ?_) ?_ rfl rfl
      fun other id bound => ?_
    · obtain rfl := Option.some.inj (found.symm.trans held)
      exact ⟨rfl, rfl, rfl, .inr ⟨rfl, rfl⟩⟩
    · exact (EntityTable.contains_modify _ _ _ _).trans (Table.contains_of_get? found)
    · by_cases same : other = client
      · subst same
        exact .inr (Option.some.inj ((Table.get?_insert_self ..).symm.trans bound)).symm
      · rw [State.avatarOf?, Table.get?_insert_of_ne _ same, kept] at bound
        exact .inl bound
  | @leaves id trace next bound gone =>
    exact edited.passes_of_shrinks (State.shrinks_despawn gone)
  | @interacts avatar target behavior args thread next bound loaded may started =>
    -- The thread that is started refers to the avatar of the client.
    have refers (id : EntityId) (same : some avatar = some id) : before.state.Refers id :=
      .inr ⟨client, bound.trans same⟩
    exact State.startThread_passes started refers refers
  | moves position bound => exact edited.passes_of_shrinks (.refl _)
  | _ => exact State.passes_refl _

theorem applyCommand_passes (library : Library) (settings : Settings) (underway : Underway)
    (command : SequencedCommand) :
    underway.state.Passes (underway.applyCommand library settings command).state :=
  (applyCommand_applied library settings underway command).passes

/-! ## Turns -/

theorem step_passes {underway : Underway} {thread : Thread}
    (found : underway.state.threads.get? id = some thread) :
    underway.state.Passes (step library id thread underway).2.state := by
  refine (edited_step id thread underway).passes fun _ refers => ?_
  exact step_refers found refers

end Underway

/-- Every step of a tick gives out at most one identity, and refers to nobody new. -/
theorem State.Advances.passes {before after : State} {library : Library} {settings : Settings}
    (advances : before.Advances library settings after) : before.Passes after := by
  cases advances with
  | rest => exact passes_refl _
  | command underway command => exact underway.applyCommand_passes library settings command
  | instruct found => exact Underway.step_passes found
  | stop _ id =>
    have shrinks := ThreadTable.shrinks_erase before.threads id
    exact (State.Changed.quiet (.removeThread before id)).passes fun _ refers =>
      .inl (shrinks.refers refers)
  | finish _ tick =>
    exact (State.Changed.quiet (.tick before tick)).passes fun _ refers => .inl refers

end Lockstep
