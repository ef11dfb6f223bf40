import Lockstep.Behavior.Authored
import Lockstep.Machine
import Lockstep.Relay

/-!
# World manifests

A manifest describes a world: its seed and timing, its behaviors, what avatars are made from, and
the entities that it begins with. All of it may be left out.
-/

set_option autoImplicit false

namespace Lockstep

/-- An entity that a world begins with. -/
structure EntitySpawn where
  name : String
  kind : EntityKind
  template : EntityTemplate
  deriving DecidableEq, Inhabited

/-- The description of a world. -/
structure Manifest where
  seed : UInt64
  /-- How many ticks there are in a second. -/
  tickRate : UInt32
  instructionBudget : UInt32
  commandLead : UInt64
  /-- A directory of behavior containers, relative to the manifest. -/
  behaviorDirectory : Option String
  behaviors : List AuthoredBehavior
  avatar : EntityTemplate
  entities : List EntitySpawn
  deriving DecidableEq

/-- The manifest in which nothing is said. -/
def Manifest.default : Manifest where
  seed := 0x51574154
  tickRate := 30
  instructionBudget := defaultInstructionBudget
  commandLead := defaultCommandLead
  behaviorDirectory := none
  behaviors := []
  avatar := EntityTemplate.empty
  entities := []

instance : Inhabited Manifest := ⟨.default⟩

/-! ## As data -/

/-- An entity is written with the fields of its template beside its own, and only ever as a map.
What is not its own is set aside for the template. -/
instance : Written EntitySpawn where
  write spawn := .record
    ([("name", Written.write spawn.name), ("kind", Written.write spawn.kind)] ++ spawn.template.fields)
  read encoding datum := do
    let fields ← datum.fields? encoding ["name", "kind", "behavior", "attributes", "position"]
    if fields.positional || !datum.isReadable then none
    else
      let name ← fields.required "name"
      let kind ← fields.defaulted "kind" .object
      let template ← EntityTemplate.ofFields? fields
      some ⟨name, kind, template⟩

instance : Written Manifest where
  write manifest := .record
    [("seed", Written.write manifest.seed), ("tick_rate_hz", Written.write manifest.tickRate),
      ("instruction_budget", Written.write manifest.instructionBudget),
      ("command_lead", Written.write manifest.commandLead),
      ("behavior_dir", Written.write manifest.behaviorDirectory),
      ("behaviors", Written.write manifest.behaviors), ("avatar", Written.write manifest.avatar),
      ("entities", Written.write manifest.entities)]
  read encoding datum := do
    let fields ← datum.fields? encoding
      ["seed", "tick_rate_hz", "instruction_budget", "command_lead", "behavior_dir", "behaviors",
        "avatar", "entities"]
    let initial := Manifest.default
    let seed ← fields.defaulted "seed" initial.seed
    let tickRate ← fields.defaulted "tick_rate_hz" initial.tickRate
    let instructionBudget ←
      fields.defaulted "instruction_budget" initial.instructionBudget
    let commandLead ← fields.defaulted "command_lead" initial.commandLead
    let behaviorDirectory ← fields.defaulted "behavior_dir" initial.behaviorDirectory
    let behaviors ← fields.defaulted "behaviors" initial.behaviors
    let avatar ← fields.defaulted "avatar" initial.avatar
    let entities ← fields.defaulted "entities" initial.entities
    some
      { seed, tickRate, instructionBudget, commandLead, behaviorDirectory, behaviors, avatar,
        entities }

end Lockstep
