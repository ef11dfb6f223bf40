import Lockstep.Proofs.Machine.Chronicle
import Lockstep.Proofs.State.Births

/-!
# Edits that are counted by births

The edits of a history make no more entities than are born in it, as long as fewer are born than
there are identities (`Machine.history_counted`). A client that joins may have an avatar already, and
then nobody is made, so it is not enough to count what was asked for. Instead every command of a
tick is counted by whoever comes with it (`Underway.commands_counted`). No one is made in turns.
-/

set_option autoImplicit false

namespace Lockstep

variable {log : List (EntityId × Entity)}

namespace Underway

variable {library : Library} {settings : Settings} {underway : Underway}

theorem Edited.counted {after : Underway} {threads : Nat} (edited : underway.Edited 1 threads after)
    (follow : underway.state.EntitiesFollow after.state) (ledger : underway.state.Ledger log)
    (room : (log ++ underway.state.arrivals [after.state]).length < 2 ^ 32) :
    underway.Edited (underway.state.arrivals [after.state]).length threads after := by
  obtain ⟨events, changed, heard⟩ := edited
  exact ⟨events, changed.counted follow ledger room, heard⟩

/-- Whoever comes with the first command comes before all who come with the others. -/
theorem arrivals_scanl_cons (command : SequencedCommand) (rest : List SequencedCommand) :
    let next := underway.applyCommand library settings command
    underway.state.arrivals
        (((command :: rest).scanl (applyCommand library settings) underway).map state) =
      underway.state.arrivals [next.state] ++
        next.state.arrivals ((rest.scanl (applyCommand library settings) next).map state) := by
  intro next
  rw [List.scanl_cons, List.map_cons, State.arrivals_self]
  obtain ⟨tail, begins⟩ : ∃ tail,
      (rest.scanl (applyCommand library settings) next).map state = next.state :: tail := by
    cases rest with
    | nil => exact ⟨_, rfl⟩
    | cons => exact ⟨_, congrArg (List.map state) List.scanl_cons⟩
  rw [begins, State.arrivals_cons, State.arrivals_self]

/-- **Commands make no more entities than come with them.** -/
theorem commands_counted (commands : List SequencedCommand) (ledger : underway.state.Ledger log)
    (room : (log ++ underway.state.arrivals
      ((commands.scanl (applyCommand library settings) underway).map state)).length < 2 ^ 32) :
    underway.Edited
      (underway.state.arrivals
        ((commands.scanl (applyCommand library settings) underway).map state)).length
      (SequencedCommand.mostThreads commands)
      (commands.foldl (applyCommand library settings) underway) := by
  induction commands generalizing underway log with
  | nil => exact (Edited.refl underway).mono (Nat.zero_le _) (Nat.le_refl _)
  | cons command rest inductionHypothesis =>
    rw [arrivals_scanl_cons] at room ⊢
    rw [← List.append_assoc] at room
    have enough := Nat.lt_of_le_of_lt (List.prefix_append _ _).length_le room
    have applied := applyCommand_applied library settings underway command
    have follow := applied.passes.entities
    have one := applied.edited.mono command.action.mostEntities_le_one (Nat.le_refl _)
    rw [List.length_append]
    exact (one.counted follow ledger enough).trans
      (inductionHypothesis (ledger.next follow enough) room)

end Underway

namespace Machine

variable {machine : Machine} {commands : List SequencedCommand} {seed : UInt64}

/-- Between two turns of a tick no more entities have been made than come in the tick. -/
theorem turns_counted (turns : List ThreadId) (ledger : machine.state.Ledger log)
    (room : (log ++ machine.state.arrivals
      ((machine.moments commands seed).map Underway.state)).length < 2 ^ 32) :
    (machine.dawn seed).Edited
      (machine.state.arrivals ((machine.moments commands seed).map Underway.state)).length
      (SequencedCommand.mostThreads commands)
      (machine.runTurns turns (machine.begin (SequencedCommand.sort commands) seed) []).2 := by
  let ordered := SequencedCommand.sort commands
  let begun := machine.begin ordered seed
  have route := (machine.begin_path ordered seed).route fun _ _ advances => advances.passes
  have more := route.arrivals_append
    ((machine.turnMoments begun.state.threads.keys begun).map Underway.state)
  rw [← List.map_append] at more
  change machine.state.arrivals ((machine.moments commands seed).map Underway.state) = _ at more
  rw [more, ← List.append_assoc] at room
  have enough := Nat.lt_of_le_of_lt (List.prefix_append _ _).length_le room
  have dawn : (machine.dawn seed).state.Ledger log := ledger
  have commanded := Underway.commands_counted ordered dawn enough
  rw [SequencedCommand.mostThreads_sort] at commanded
  rw [more]
  exact (commanded.trans (machine.edited_runTurns turns begun [])).mono
    (List.prefix_append _ _).length_le (Nat.le_refl _)

end Machine

/-- **In an operation no more entities are made than come.** -/
theorem History.extend_counted (history : History) (operation : Operation)
    (ledger : history.machine.state.Ledger log)
    (room : (log ++ history.machine.state.arrivals (history.statesIn operation)).length <
      2 ^ 32) :
    ∃ events, history.machine.state.Changed
        (history.machine.state.arrivals (history.statesIn operation)).length operation.mostThreads
        events (history.extend operation).machine.state ∧
      soundEvents .recording (history.extend operation).trace =
        soundEvents .recording history.trace ++ events := by
  have route := history.extend_route operation
  obtain ⟨events, changed, told⟩ := history.extend_changed operation
  cases operation with
  | spawn kind name template =>
    exact ⟨events, changed.counted route.passes_of_one.entities ledger room, told⟩
  | despawn id =>
    have atMost := changed.mono (Nat.zero_le 1) (Nat.le_refl 0)
    exact ⟨events, atMost.counted route.passes_of_one.entities ledger room, told⟩
  | tick commands seed =>
    have upTo := history.machine.state.arrivals_mono (List.prefix_append
      ((history.machine.moments commands seed).map Underway.state)
      [(history.machine.runTick commands seed).machine.state])
    have enough := Nat.lt_of_le_of_lt ((List.prefix_append_right_inj log).mpr upTo).length_le room
    have dusk := Machine.changed_dusk (Machine.turns_counted _ ledger enough)
    exact ⟨_, (Machine.changed_runTick dusk).mono upTo.length_le (Nat.le_refl _),
      soundEvents_append ..⟩

namespace Machine

variable {library : Library} {settings : Settings}

/-- **Whatever is done with a machine, no more entities are made than are born**, and the trace tells
the player of sounds what the edits list as their deeds. -/
theorem history_counted (operations : List Operation)
    (few : (births (passed library settings operations)).length < 2 ^ 32) :
    State.empty.Changed (births (passed library settings operations)).length
      (Operation.mostThreadsOf operations)
      (soundEvents .recording (history library settings operations).trace)
      (history library settings operations).machine.state := by
  induction operations using List.reverseRecOn with
  | nil => exact .refl _
  | append_singleton operations operation inductionHypothesis =>
    have route := @history_route library settings operations
    have more := route.arrivals_append
      ((history library settings operations).statesIn operation)
    rw [← passed_concat] at more
    change births (passed library settings (operations ++ [operation])) =
      births (passed library settings operations) ++ _ at more
    rw [more] at few ⊢
    have enough := Nat.lt_of_le_of_lt (List.prefix_append _ _).length_le few
    obtain ⟨events, changed, told⟩ :=
      (history library settings operations).extend_counted operation (route.entityLedger enough) few
    rw [history_concat, told, mostThreadsOf_append, List.length_append]
    exact (inductionHypothesis enough).trans changed

/-- Fewer have been born before a tick than in the end. -/
theorem births_length_lt {earlier later : List Operation}
    (few : (births (passed library settings (earlier ++ later))).length < 2 ^ 32) :
    (births (passed library settings earlier)).length < 2 ^ 32 :=
  Nat.lt_of_le_of_lt (births_mono (passed_append earlier later)).length_le few

/-- So it is in the middle of a tick, between two turns. -/
theorem history_turns_counted (earlier later : List Operation) (commands : List SequencedCommand)
    (seed : UInt64) (turns : List ThreadId)
    (few : (births (passed library settings
      (earlier ++ .tick commands seed :: later))).length < 2 ^ 32) :
    let machine := (history library settings earlier).machine
    let begun := machine.begin (SequencedCommand.sort commands) seed
    ∃ made, (births (passed library settings earlier)).length + made < 2 ^ 32 ∧
      (machine.dawn seed).Edited made (SequencedCommand.mostThreads commands)
        (machine.runTurns turns begun []).2 := by
  intro machine begun
  have route := @history_route library settings earlier
  have upTo := births_mono (@moments_passed library settings earlier later commands seed)
  have room := Nat.lt_of_le_of_lt upTo.length_le few
  have more := route.arrivals_append ((machine.moments commands seed).map Underway.state)
  change births _ = births (passed library settings earlier) ++ _ at more
  rw [more] at room
  have enough := Nat.lt_of_le_of_lt (List.prefix_append _ _).length_le room
  have edited := turns_counted turns (route.entityLedger enough) room
  rw [List.length_append] at room
  exact ⟨_, room, edited⟩

end Machine
end Lockstep
