import Lockstep.Proofs.Thread.Spares
import Lockstep.Proofs.Tick.Edited

/-!
# Threads under their own identities

A thread is written down together with its identity and without the key that it is kept under, so
what is read back is the same table only if the two agree. They do in every state that edits lead to
(`State.Edits.keyed`), and so in every history (`Machine.history_keyed`): a thread is put under its
own identity when it is started, and nothing changes the identity of a thread after that.
-/

set_option autoImplicit false

namespace Lockstep

namespace ThreadTable.Keyed

variable {threads : ThreadTable}

theorem insert (keyed : threads.Keyed) {id : ThreadId} {thread : Thread} (own : thread.id = id) :
    ThreadTable.Keyed (Table.insert threads id thread) := by
  intro other held found
  rcases Table.get?_insert_eq_some_iff.mp found with ⟨rfl, rfl⟩ | ⟨-, earlier⟩
  · exact own
  · exact keyed other held earlier

theorem modify (keyed : threads.Keyed) (id : ThreadId) {change : Thread → Thread}
    (kept : ∀ thread, (change thread).id = thread.id) :
    ThreadTable.Keyed (Table.modify threads id change) := by
  intro other held found
  by_cases same : other = id
  · subst same
    rw [Table.get?_modify_self] at found
    obtain ⟨thread, earlier, rfl⟩ := Option.map_eq_some_iff.mp found
    exact (kept thread).trans (keyed other thread earlier)
  · rw [Table.get?_modify_of_ne threads same] at found
    exact keyed other held found

theorem shrink {after : ThreadTable} (keyed : threads.Keyed) (shrinks : threads.Shrinks after) :
    after.Keyed :=
  fun id thread found => keyed id thread (shrinks id thread found)

end ThreadTable.Keyed

namespace State

/-- **Every edit leaves threads under their own identities.** -/
theorem Edit.keyed {before after : State} {deeds : List Deed} (edit : Edit before deeds after)
    (keyed : before.threads.Keyed) : after.threads.Keyed := by
  cases edit with
  | startThread started =>
    obtain ⟨_, _, rfl⟩ := startThread_eq started
    exact keyed.insert rfl
  | setThread id => exact keyed.modify id fun _ => rfl
  | removeThread id => exact keyed.shrink (ThreadTable.shrinks_erase before.threads id)
  | despawn gone => exact keyed.shrink (shrinks_despawn gone)
  | _ => exact keyed

theorem Edits.keyed {before after : State} {deeds : List Deed} (edits : Edits before deeds after)
    (keyed : before.threads.Keyed) : after.threads.Keyed :=
  edits.keep keyed fun edit => edit.keyed

theorem Changed.keyed {before after : State} {entities threads : Nat} {events : List SoundEvent}
    (changed : before.Changed entities threads events after) (keyed : before.threads.Keyed) :
    after.threads.Keyed := by
  obtain ⟨deeds, edits, _⟩ := changed
  exact edits.keyed keyed

end State

/-- **Wherever a history leads, threads are kept under their own identities.** -/
theorem Machine.history_keyed {library : Library} {settings : Settings}
    (operations : List Operation) :
    (history library settings operations).machine.state.threads.Keyed := by
  obtain ⟨_, changed⟩ := @history_changed library settings operations
  exact changed.keyed nofun

end Lockstep
