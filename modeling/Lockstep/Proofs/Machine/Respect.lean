import Lockstep.Proofs.Command.Respect
import Lockstep.Proofs.Entity.History
import Lockstep.Proofs.Machine.Chronicle
import Lockstep.Proofs.Machine.Churn
import Lockstep.Proofs.State.Births

/-!
# Commands in chronicles

Whatever has happened to a machine, and whatever commands a tick is given, none of them reaches into
what another client owns (`Machine.chronicle_respects`). Commands are applied to what the commands
before them in the same tick have left, so this is said of every one of them where it is applied.
-/

set_option autoImplicit false

namespace Lockstep.Machine

/-- **No command reaches into what another client owns.** Whatever has happened to a machine, and
whatever commands a tick is given: each of them, where it is applied, leaves the avatars of other
clients tied to them, and spares all entities other than the avatar of its own client. -/
theorem chronicle_respects {library : Library} {settings : Settings} {happenings : List Happening}
    {commands : List SequencedCommand} {seed : UInt64}
    (packable : (Chronicle.new library settings).SnapshotsPackable happenings)
    (few : (births ((chronicle library settings happenings).operate
      (.tick commands seed)).passed).length < 2 ^ 32) :
    let machine := (chronicle library settings happenings).machine
    ∀ earlier command later, SequencedCommand.sort commands = earlier ++ command :: later →
      let before := machine.begin earlier seed
      let after := before.applyCommand machine.library machine.settings command
      command.Respects before.state after.state := by
  intro machine earlier command later split before after
  have kept := (chronicle_kept happenings packable).operate (.tick commands seed)
  have passing : before.state ∈ ((chronicle library settings happenings).operate
      (.tick commands seed)).passed := by
    refine List.mem_append_right _ (List.mem_append_left _ (List.mem_map_of_mem ?_))
    exact begin_mem_moments split seed
  obtain ⟨deeds, edits, made⟩ := kept.route.edits_of_mem few passing
  exact Underway.applyCommand_respects (edits.avatarsAlive made) (edits.linked made)
    (kept.route.entity_fresh few passing) machine.settings command

/-- Two clients have joined, and a dog has picked the avatar of the second one up. The first client
may start a thread on the dog. When the second one leaves, the dog has nothing to carry and nobody
to like, and the first one keeps its avatar. -/
theorem chronicle_respects_dog :
    let settings : Settings := ⟨10, default⟩
    let happenings : List Happening :=
      [.operate (.tick [⟨1, 1, ⟨1⟩, .join "ada"⟩] 7), .operate (.tick [⟨2, 2, ⟨2⟩, .join "bob"⟩] 8),
        .operate (.spawn .object "dog" ⟨some 300, [], ⟨0, 0⟩⟩), .operate (.tick [] 9),
        .restore fondLibrary settings]
    let interact : SequencedCommand := ⟨3, 4, ⟨1⟩, .interact ⟨3⟩ 300 (Vector.replicate 4 0)⟩
    let leave : SequencedCommand := ⟨3, 4, ⟨2⟩, .leave⟩
    let machine := (chronicle fondLibrary settings happenings).machine
    let before := machine.dawn 10
    let started := (before.applyCommand machine.library machine.settings interact).state
    let left := (before.applyCommand machine.library machine.settings leave).state
    before.state.entities.burdenOf ⟨3⟩ = some ⟨2⟩ ∧ interact.Respects before.state started ∧
      started.threads.keys = [⟨⟨3⟩, 2⟩] ∧ leave.Respects before.state left ∧
      left.entities.get? ⟨3⟩ = (before.state.entities.get? ⟨3⟩).map (Entity.forget ⟨2⟩) ∧
      left.avatarOf? ⟨1⟩ = some ⟨1⟩ := by
  intro settings happenings interact leave machine before started left
  have packable : (Chronicle.new fondLibrary settings).SnapshotsPackable happenings := by
    decide +kernel
  let extended (command : SequencedCommand) : Chronicle :=
    (chronicle fondLibrary settings happenings).operate (.tick [command] 10)
  obtain ⟨fewStarted, fewLeft⟩ : (births (extended interact).passed).length < 2 ^ 32 ∧
      (births (extended leave).passed).length < 2 ^ 32 := by decide +kernel
  have alone (command : SequencedCommand) : SequencedCommand.sort [command] = [] ++ command :: [] :=
    List.mergeSort_singleton command
  have interacts : interact.Respects before.state started :=
    chronicle_respects packable fewStarted [] interact [] (alone interact)
  have leaves : leave.Respects before.state left :=
    chronicle_respects packable fewLeft [] leave [] (alone leave)
  obtain ⟨carries, first, second, starts⟩ : before.state.entities.burdenOf ⟨3⟩ = some ⟨2⟩ ∧
      before.state.avatarOf? ⟨1⟩ = some ⟨1⟩ ∧ before.state.avatarOf? ⟨2⟩ = some ⟨2⟩ ∧
      started.threads.keys = [⟨⟨3⟩, 2⟩] := by decide +kernel
  have apart : before.state.avatarOf? ⟨2⟩ ≠ some ⟨3⟩ := by
    rw [second]
    decide
  have spared : CommandAction.leave.Spares ⟨2⟩ before.state left ⟨3⟩ := leaves.entities ⟨3⟩ apart
  rw [CommandAction.Spares, second] at spared
  have kept : left.avatarOf? ⟨1⟩ = before.state.avatarOf? ⟨1⟩ := leaves.bindings ⟨1⟩ (by decide)
  exact ⟨carries, interacts, starts, leaves, spared, kept.trans first⟩

/-- When the counter of identities has run over, the avatar of a client that joins takes the place of
the avatar of another one. -/
theorem chronicle_respects_lap :
    let joins : List Operation := [.tick [⟨1, 1, ⟨1⟩, .join "ada"⟩] 7]
    let happenings : List Happening := (joins ++ lap 1).map .operate
    let command : SequencedCommand := ⟨2, 2, ⟨2⟩, .join "bob"⟩
    let machine := (chronicle default default happenings).machine
    let before := machine.dawn 8
    let after := before.applyCommand machine.library machine.settings command
    before.state.clientOf? ⟨1⟩ = some ⟨1⟩ ∧ after.state.clientOf? ⟨1⟩ = some ⟨2⟩ ∧
      ¬ command.Respects before.state after.state := by
  intro joins happenings command machine before after
  have reached : machine = (history default default (joins ++ lap 1)).machine :=
    congrArg History.machine (@chronicle_operate default default (joins ++ lap 1))
  have same := reached.trans (@history_lap default default joins 1 (by decide +kernel)
    (by decide +kernel)).1
  -- From here on the machine is what is known of it, and nobody is to run the operations.
  clear_value machine
  have first : before.state.clientOf? ⟨1⟩ = some ⟨1⟩ := by
    show (machine.dawn 8).state.clientOf? ⟨1⟩ = _
    rw [same]
    decide +kernel
  have second : after.state.clientOf? ⟨1⟩ = some ⟨2⟩ := by
    show ((machine.dawn 8).applyCommand machine.library machine.settings command).state.clientOf?
      ⟨1⟩ = _
    rw [same]
    decide +kernel
  have apart : before.state.avatarOf? ⟨2⟩ ≠ some ⟨1⟩ := by
    show (machine.dawn 8).state.avatarOf? ⟨2⟩ ≠ _
    rw [same]
    decide +kernel
  refine ⟨first, second, fun respects => ?_⟩
  obtain kept | ⟨_, absent, _⟩ : CommandAction.Spares ⟨2⟩ before.state after.state ⟨1⟩ (.join "bob") :=
    respects.entities ⟨1⟩ apart
  · have still : after.state.clientOf? ⟨1⟩ = before.state.clientOf? ⟨1⟩ :=
      congrArg (Option.bind · Entity.client) kept
    exact absurd (second.symm.trans (still.trans first)) (by decide)
  · have nobody : before.state.clientOf? ⟨1⟩ = none := congrArg (Option.bind · Entity.client) absent
    exact absurd (first.symm.trans nobody) (Option.some_ne_none _)

end Lockstep.Machine
