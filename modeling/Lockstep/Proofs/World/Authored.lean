import Lockstep.Proofs.Behavior.Authored
import Lockstep.Proofs.Tick.Warranted
import Lockstep.World

/-!
# Authored worlds do not go wrong

All behaviors of a world are checked when they come from the manifest, and all that begins in a
behavior begins in one that is loaded (`World.GoesRight`). That is what makes the machine of the
world go right, and every tick of it, for good: none of its threads ever fails because of an operand
that cannot be decoded or is meant for another primitive, or of a behavior that is not there
(`World.run_warranted`). A call of a behavior that is not loaded and a behavior without instructions
still make a thread fail.
-/

set_option autoImplicit false

namespace Lockstep

/-! ## Worlds -/

/-- A world with checked behaviors in which all that begins in a behavior begins in one that is
loaded. -/
structure World.GoesRight (world : World) : Prop where
  checked : world.library.Checked
  avatar : world.manifest.avatar.Loaded world.library
  entities : ∀ spawn ∈ world.manifest.entities, spawn.template.Loaded world.library

theorem Manifest.checked_of_compile {manifest : Manifest} {behaviors : List Behavior}
    (compiled : manifest.compile = .ok behaviors) : ∀ behavior ∈ behaviors, behavior.Checked := by
  intro behavior member
  obtain ⟨authored, _, made⟩ := exists_of_mem_mapM compiled member
  cases result : authored.compile with
  | error cause => rw [result] at made; cases made
  | ok same =>
    rw [result] at made
    obtain rfl := Except.ok.inj made
    exact AuthoredBehavior.checked_of_compile result

/-- What passes the check begins in behaviors that are loaded. -/
theorem Manifest.loaded_of_check {manifest : Manifest} {library : Library}
    (passed : manifest.check library = .ok ()) {owner : String} {template : EntityTemplate}
    (starts : (owner, template.behavior) ∈ manifest.starts) : template.Loaded library := by
  intro start begins
  rw [check] at passed
  split at passed
  · cases passed
  · have known := forM_eq_ok_iff.mp passed _ starts
    rw [begins] at known
    by_cases loaded : library.contains start = true
    · exact Library.contains_iff.mp loaded
    · simp [loaded] at known

namespace World

/-- The behaviors of a world whose manifest names no directory are those of its manifest. -/
theorem build_authored {m : Type → Type} [Monad m] [LawfulMonad m] [FileSystem m]
    {manifest : Manifest} (authored : manifest.behaviorDirectory = none) (base : String) :
    (build manifest base : ExceptT WorldError m World) =
      ExceptT.mk (pure (ofManifest manifest [])) := by
  rw [build, authored]
  exact pure_bind _ _

/-- A world has the behaviors that were read for its manifest and those of the manifest, and passes
the check with them. -/
theorem exists_of_ofManifest {manifest : Manifest} {stored : List Behavior} {world : World}
    (made : ofManifest manifest stored = .ok world) :
    ∃ compiled library, manifest.compile = .ok compiled ∧
      Library.ofBehaviors (stored ++ compiled) = .ok library ∧
      manifest.check library = .ok () ∧ world = ⟨manifest, library⟩ := by
  rw [ofManifest, bind_eq_ok_iff] at made
  obtain ⟨compiled, compiles, made⟩ := made
  cases gathers : Library.ofBehaviors (stored ++ compiled) with
  | error cause =>
    rw [gathers] at made
    cases made
  | ok library =>
    rw [gathers] at made
    obtain ⟨_, passed, same⟩ : ∃ checked, manifest.check library = .ok checked ∧
        Except.ok (World.mk manifest library) = .ok world := bind_eq_ok_iff.mp made
    exact ⟨compiled, library, compiles, gathers, passed, (Except.ok.inj same).symm⟩

/-- Whatever the behaviors of a world are, what begins in one of them begins in one that is
loaded. -/
theorem begins_ofManifest {manifest : Manifest} {stored : List Behavior} {world : World}
    (made : ofManifest manifest stored = .ok world) :
    world.manifest.avatar.Loaded world.library ∧
      ∀ spawn ∈ world.manifest.entities, spawn.template.Loaded world.library := by
  obtain ⟨compiled, library, _, _, passed, rfl⟩ := exists_of_ofManifest made
  refine ⟨?_, fun spawn member => ?_⟩
  · exact Manifest.loaded_of_check passed (List.mem_append_right _ List.mem_cons_self)
  · exact Manifest.loaded_of_check passed
      (List.mem_append_left _ (List.mem_map.mpr ⟨spawn, member, rfl⟩))

theorem goesRight_ofManifest {manifest : Manifest} {world : World}
    (made : ofManifest manifest [] = .ok world) : world.GoesRight := by
  obtain ⟨avatar, entities⟩ := begins_ofManifest made
  obtain ⟨compiled, library, compiles, gathers, _, rfl⟩ := exists_of_ofManifest made
  refine ⟨fun id behavior found => ?_, avatar, entities⟩
  exact Manifest.checked_of_compile compiles behavior (Library.mem_of_ofBehaviors gathers found)

variable {world : World}

theorem GoesRight.withBudget (right : world.GoesRight) (budget : Option UInt32) :
    (world.withBudget budget).GoesRight := by
  cases budget with
  | none => exact right
  | some budget => exact ⟨right.checked, right.avatar, right.entities⟩

theorem library_withBudget (budget : Option UInt32) :
    (world.withBudget budget).library = world.library := by
  cases budget <;> rfl

/-- The machine of a world that goes right goes right from the start. -/
theorem GoesRight.instantiate (right : world.GoesRight) :
    world.instantiate.GoesRight ∧ world.instantiate.library = world.library := by
  have spawned : ∀ (spawns : List EntitySpawn) (machine : Machine),
      (∀ spawn ∈ spawns, spawn.template.Loaded machine.library) → machine.GoesRight →
      let after := spawns.foldl
        (fun machine spawn => (machine.spawn spawn.kind spawn.name spawn.template).2) machine
      after.GoesRight ∧ after.library = machine.library := by
    intro spawns
    induction spawns with
    | nil => exact fun machine _ right => ⟨right, rfl⟩
    | cons spawn rest inductionHypothesis =>
      intro machine loaded right
      obtain ⟨here, others⟩ := List.forall_mem_cons.mp loaded
      exact inductionHypothesis _ others ⟨right.checked, right.avatar,
        State.placed_spawn right.threads spawn.kind spawn.name here⟩
  refine spawned world.manifest.entities (Machine.new world.library world.settings) right.entities
    ⟨right.checked, right.avatar, fun id thread held => ?_⟩
  exact absurd held (by simp [Machine.new, State.empty])

end World

/-! ## Runs -/

/-- The machine after some ticks, each with its commands and its seed. -/
def Machine.runTicks (machine : Machine) (ticks : List (List SequencedCommand × UInt64)) :
    Machine :=
  ticks.foldl (fun machine tick => (machine.runTick tick.1 tick.2).machine) machine

/-- A machine that goes right does so after any ticks. -/
theorem Machine.runTicks_goesRight {machine : Machine} (right : machine.GoesRight)
    (ticks : List (List SequencedCommand × UInt64)) :
    (machine.runTicks ticks).GoesRight ∧ (machine.runTicks ticks).library = machine.library := by
  induction ticks generalizing machine with
  | nil => exact ⟨right, rfl⟩
  | cons tick rest inductionHypothesis =>
    exact inductionHypothesis (runTick_warranted right tick.1 tick.2).2

theorem ThreadFault.Warranted.label_ne {library : Library} {fault : ThreadFault}
    (warrant : fault.Warranted library) :
    fault.label ≠ "malformed_operand" ∧ fault.label ≠ "missing_behavior" := by
  cases fault with
  | malformedOperand | missingBehavior => exact absurd warrant id
  | unknownPrimitive | budgetExceeded | branchOutOfRange | stackOverflow | primitive | raised =>
    exact ⟨by simp [ThreadFault.label], by simp [ThreadFault.label]⟩

/-- **Authored worlds do not go wrong.** Whatever has happened in a world with the behaviors of its
manifest, with whatever commands, seeds and budget: in every tick all faults are warranted, those
that end threads and those that are caught. In particular no thread ends with an operand that
cannot be decoded or a behavior that is not loaded, or catches such a fault. -/
theorem World.run_warranted {manifest : Manifest} {world : World}
    (made : World.ofManifest manifest [] = .ok world) (budget : Option UInt32)
    (ticks : List (List SequencedCommand × UInt64)) (commands : List SequencedCommand)
    (seed : UInt64) :
    let outcome := ((world.withBudget budget).instantiate.runTicks ticks).runTick commands seed
    outcome.Warranted world.library ∧
      ∀ (id : ThreadId) (label : String),
        "thread " ++ id.text ++ " caught " ++ label ∈ outcome.report.events →
          label ≠ "malformed_operand" ∧ label ≠ "missing_behavior" := by
  intro outcome
  have right := (World.goesRight_ofManifest made).withBudget budget
  obtain ⟨instantiated, library⟩ := right.instantiate
  obtain ⟨ran, same⟩ := Machine.runTicks_goesRight instantiated ticks
  have warranted : outcome.Warranted world.library := by
    rw [← world.library_withBudget budget, ← library, ← same]
    exact (Machine.runTick_warranted ran commands seed).1
  refine ⟨warranted, fun id label said => ?_⟩
  obtain ⟨fault, warrant, rfl⟩ := (warranted.lines _ said).warranted
  exact warrant.label_ne

/-- In a world with an empty behavior and a behavior that first calls the empty one, and then one
that is not there, the first fault is caught and the second ends the thread. -/
theorem World.run_warranted_lamp :
    let empty : AuthoredBehavior := ⟨0x0100, "empty", 0, 0, []⟩
    let glow : AuthoredBehavior := ⟨0x0101, "glow", 0, 0,
      [⟨.call ⟨0x0100, #v[0, 0, 0, 0], ⟨1⟩⟩, none, some .next⟩,
        ⟨.call ⟨0x0200, #v[0, 0, 0, 0], ⟨0⟩⟩, none, none⟩]⟩
    let manifest : Manifest := { Manifest.default with
      behaviors := [empty, glow]
      entities := [⟨"lamp", .object, ⟨some 0x0101, [], ⟨0, 0⟩⟩⟩] }
    ∃ world, World.ofManifest manifest [] = .ok world ∧
      let outcome := (world.withBudget (some 9)).instantiate.runTick [] 7
      outcome.report.events = ["thread #1/t1 caught branch_out_of_range"] ∧
      outcome.report.faults = [⟨⟨⟨1⟩, 1⟩, .unknownPrimitive ⟨0x0101, 1⟩ 0x0200⟩] ∧
      outcome.Warranted world.library := by
  intro empty glow manifest
  let world : World := ⟨manifest, ⟨(Table.empty.insert 0x0100 ⟨0x0100, "empty", 0, 0, []⟩).insert
    0x0101 ⟨0x0101, "glow", 0, 0, [⟨0x0100, 1, 1, operandBuffer [0, 0, 0, 0, 0, 0, 0, 0, 1]⟩,
      ⟨0x0200, targetTrue, targetFalse, operandBuffer []⟩]⟩⟩⟩
  have made : World.ofManifest manifest [] = .ok world := by decide +kernel
  have warranted := (World.run_warranted made (some 9) [] [] 7).1
  exact ⟨world, made, by decide +kernel, by decide +kernel, warranted⟩

end Lockstep
