import Lockstep.Proofs.Tick.Loaded
import Lockstep.Proofs.World.Authored

/-!
# Threads of worlds run behaviors that are loaded

Where the behaviors of a world come from does not matter here: those in files are not checked before
they are loaded. The check of the manifest is that entities and avatars begin in behaviors that are
loaded. From there on interactions and calls look for themselves, so every frame of every thread
runs a behavior that is loaded, at every moment, and no thread fails because one is not there
(`World.run_loaded`).
-/

set_option autoImplicit false

namespace Lockstep

/-- The threads of a world are loaded before the first tick. -/
theorem World.instantiate_loaded {world : World}
    (avatar : world.manifest.avatar.Loaded world.library)
    (entities : ∀ spawn ∈ world.manifest.entities, spawn.template.Loaded world.library) :
    world.instantiate.Loaded ∧ world.instantiate.library = world.library := by
  rw [instantiate]
  refine List.foldlRecOn (motive := fun machine : Machine =>
    machine.Loaded ∧ machine.library = world.library) world.manifest.entities _
      ⟨⟨avatar, fun id thread held => nomatch held⟩, rfl⟩ ?_
  rintro machine ⟨loaded, library⟩ spawn member
  have begins := entities spawn member
  rw [← library] at begins
  exact ⟨⟨loaded.avatar, State.loaded_spawn loaded.threads spawn.kind spawn.name begins⟩, library⟩

/-- The threads of a machine stay loaded. -/
theorem Machine.runTicks_loaded {machine : Machine} (loaded : machine.Loaded)
    (ticks : List (List SequencedCommand × UInt64)) :
    (machine.runTicks ticks).Loaded ∧ (machine.runTicks ticks).library = machine.library := by
  induction ticks generalizing machine with
  | nil => exact ⟨loaded, rfl⟩
  | cons tick rest inductionHypothesis =>
    exact inductionHypothesis (runTick_loaded loaded tick.1 tick.2).2.2

theorem ThreadFault.label_ne_missing {fault : ThreadFault}
    (other : ∀ behavior, fault ≠ .missingBehavior behavior) : fault.label ≠ "missing_behavior" := by
  cases fault with
  | missingBehavior behavior => exact absurd rfl (other behavior)
  | malformedOperand | unknownPrimitive | budgetExceeded | branchOutOfRange | stackOverflow
  | primitive | raised => simp [ThreadFault.label]

/-- **Every thread of a world always runs behaviors that are loaded.** Whatever the behaviors of the
world are and whatever has happened in it, with whatever commands, seeds and budget: before, during
and after every tick each frame of each thread runs a behavior of the world's library. So no thread
ever fails because a behavior is not there. -/
theorem World.run_loaded {manifest : Manifest} {stored : List Behavior} {world : World}
    (made : World.ofManifest manifest stored = .ok world) (budget : Option UInt32)
    (ticks : List (List SequencedCommand × UInt64)) (commands : List SequencedCommand)
    (seed : UInt64) :
    let machine := (world.withBudget budget).instantiate.runTicks ticks
    (∀ state ∈ machine.tickStates commands seed, ∀ id thread,
        state.threads.get? id = some thread →
          ∀ frame ∈ thread.frames, world.library.contains frame.behavior = true) ∧
      ∀ record ∈ (machine.runTick commands seed).report.faults,
        record.fault.label ≠ "missing_behavior" := by
  intro machine
  obtain ⟨avatar, entities⟩ := World.begins_ofManifest made
  have begun : (world.withBudget budget).instantiate.Loaded ∧
      (world.withBudget budget).instantiate.library = world.library := by
    cases budget with
    | none => exact instantiate_loaded avatar entities
    | some budget => exact instantiate_loaded avatar entities
  obtain ⟨loaded, same⟩ := Machine.runTicks_loaded begun.1 ticks
  obtain ⟨states, faults, _⟩ := Machine.runTick_loaded loaded commands seed
  rw [same, begun.2] at states
  exact ⟨states, fun record member => ThreadFault.label_ne_missing (faults record member)⟩

/-- A behavior that was read from a file first calls another one, in which its thread rests for two
ticks, and then something that no behavior and no primitive is. In the third tick that ends the
thread, but not for a behavior that is not there. -/
theorem World.run_loaded_stray :
    let stray : Behavior := ⟨0x0100, "stray", 0, 0,
      [⟨0x0101, 1, 1, operandBuffer []⟩, ⟨0xFFFF, 9, 200, operandBuffer [1, 2, 3]⟩]⟩
    let rest : Behavior := ⟨0x0101, "rest", 0, 0,
      [.ofOperand (.primitive (.sleep 2)) targetTrue targetFalse]⟩
    let manifest : Manifest := { Manifest.default with
      entities := [⟨"cat", .object, ⟨some 0x0100, [], ⟨0, 0⟩⟩⟩] }
    ∃ world, World.ofManifest manifest [stray, rest] = .ok world ∧
      let machine := (world.withBudget (some 9)).instantiate.runTicks [([], 7), ([], 7)]
      (machine.state.threads.get? ⟨⟨1⟩, 1⟩).map
        (fun thread => thread.frames.map fun frame => frame.behavior) = some [0x0101, 0x0100] ∧
      (machine.runTick [] 7).report.faults.map (fun record => record.fault.label) =
        ["unknown_primitive"] ∧
      (∀ state ∈ machine.tickStates [] 7, ∀ id thread, state.threads.get? id = some thread →
        ∀ frame ∈ thread.frames, world.library.contains frame.behavior = true) ∧
      ∀ record ∈ (machine.runTick [] 7).report.faults,
        record.fault.label ≠ "missing_behavior" := by
  intro stray rest manifest
  let world : World := ⟨manifest, ⟨(Table.empty.insert 0x0100 stray).insert 0x0101 rest⟩⟩
  have made : World.ofManifest manifest [stray, rest] = .ok world := by decide +kernel
  obtain ⟨loaded, present⟩ := World.run_loaded made (some 9) [([], 7), ([], 7)] [] 7
  exact ⟨world, made, by decide +kernel, by decide +kernel, loaded, present⟩

end Lockstep
