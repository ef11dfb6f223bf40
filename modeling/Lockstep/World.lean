import Lockstep.Behavior.Container
import Lockstep.Files
import Lockstep.Json.Reader
import Lockstep.World.Manifest

/-!
# Worlds

A world is a manifest whose behaviors have been read, compiled and gathered in a library, and whose
entities all begin in behaviors that the library has. `World.ofManifest` checks this for a
manifest and the containers that go with it, and `World.load` reads both from files.
-/

set_option autoImplicit false

namespace Lockstep

/-- Why a manifest makes no world. -/
inductive WorldError where
  /-- The directory of behaviors cannot be read. -/
  | behaviorDirectory (path : String)
  /-- A file in the directory of behaviors cannot be read. -/
  | behaviorFile (path : String)
  /-- A file in the directory of behaviors is not a behavior. -/
  | behaviorContainer (path : String) (cause : BehaviorError)
  /-- A behavior of the manifest cannot be compiled. -/
  | behavior (id : UInt16) (cause : BehaviorError)
  | library (cause : DuplicateBehavior)
  | missingBehavior (owner : String) (behavior : UInt16)
  | zeroTickRate
  deriving DecidableEq, Inhabited

/-- The text of an error. -/
def WorldError.message : WorldError → String
  | .behaviorDirectory path => "reading behavior dir " ++ path
  | .behaviorFile path => "reading behavior " ++ path
  | .behaviorContainer path _ => "parsing behavior " ++ path
  | .behavior id cause => "behavior " ++ codeNumeral id ++ ": " ++ cause.message
  | .library cause => cause.message
  | .missingBehavior owner start =>
    owner ++ " starts in behavior " ++ codeNumeral start ++ ", which is not loaded"
  | .zeroTickRate => "tick rate must be positive"

/-- A manifest with its behaviors compiled and checked. -/
structure World where
  manifest : Manifest
  library : Library
  deriving DecidableEq, Inhabited

/-! ## Building -/

namespace Manifest

/-- The behaviors of a manifest. -/
def compile (manifest : Manifest) : Except WorldError (List Behavior) :=
  manifest.behaviors.mapM fun authored =>
    match authored.compile with
    | .ok behavior => .ok behavior
    | .error cause => .error (.behavior authored.id cause)

/-- Who begins in which behavior: the entities and then the avatars. -/
def starts (manifest : Manifest) : List (String × Option UInt16) :=
  manifest.entities.map (fun spawn => (spawn.name, spawn.template.behavior)) ++
    [("avatar", manifest.avatar.behavior)]

/-- Whether the tick rate is positive, and all that begins in a behavior begins in a known one. -/
def check (manifest : Manifest) (library : Library) : Except WorldError Unit :=
  if manifest.tickRate = 0 then .error .zeroTickRate
  else
    manifest.starts.forM fun (owner, start) =>
      match start with
      | none => .ok ()
      | some behavior =>
        if library.contains behavior then .ok () else .error (.missingBehavior owner behavior)

end Manifest

namespace World

/-- The world of a manifest and the behaviors that were read for it. -/
def ofManifest (manifest : Manifest) (stored : List Behavior) : Except WorldError World := do
  let compiled ← manifest.compile
  let library ← match Library.ofBehaviors (stored ++ compiled) with
    | .ok library => Except.ok library
    | .error cause => Except.error (WorldError.library cause)
  manifest.check library
  .ok ⟨manifest, library⟩

/-- The settings that the machines of a world run with. -/
def settings (world : World) : Settings :=
  ⟨world.manifest.instructionBudget, world.manifest.avatar⟩

/-- The machine of a world before the first tick, with all entities in the order of the manifest. -/
def instantiate (world : World) : Machine :=
  world.manifest.entities.foldl
    (fun machine spawn => (machine.spawn spawn.kind spawn.name spawn.template).2)
    (Machine.new world.library world.settings)

/-- The world with another instruction budget, if one is given. -/
def withBudget (world : World) (budget : Option UInt32) : World :=
  match budget with
  | none => world
  | some instructionBudget =>
    { world with manifest := { world.manifest with instructionBudget } }

end World

/-! ## Files -/

section Files

variable {m : Type → Type} [Monad m] [FileSystem m]

/-- Whether a name is that of a behavior container. -/
def namesContainer (name : String) : Bool :=
  match extension? name with
  | some extension => extension.toLower = "bhav"
  | none => false

/-- The behavior in a file. -/
def readContainer (path : String) : ExceptT WorldError m Behavior := do
  match ← (FileSystem.readFile path : m (Option Bytes)) with
  | none => throw (.behaviorFile path)
  | some bytes =>
    match Behavior.ofBytes bytes with
    | .ok (behavior, _) => return behavior
    | .error cause => throw (.behaviorContainer path cause)

/-- The behaviors in a directory, in the order of the names of their files. -/
def readContainers (directory : String) : ExceptT WorldError m (List Behavior) := do
  match ← (FileSystem.listDirectory directory : m (Option (List DirectoryEntry))) with
  | none => throw (.behaviorDirectory directory)
  | some entries =>
    let containers := entries.filter fun entry => namesContainer entry.name
    containers.mapM fun entry => readContainer (joinPath directory entry.name)

/-- The world of a manifest whose behaviors are read relative to a directory. -/
def World.build (manifest : Manifest) (base : String) : ExceptT WorldError m World := do
  let stored ← match manifest.behaviorDirectory with
    | none => pure []
    | some directory => readContainers (joinPath base directory)
  ExceptT.mk (pure (World.ofManifest manifest stored))

/-- Why a file makes no world. -/
inductive LoadError where
  | unreadable (path : String)
  | unparsable (path : String)
  | unbuildable (path : String) (cause : WorldError)
  deriving DecidableEq, Inhabited

/-- The text of an error. -/
def LoadError.message : LoadError → String
  | .unreadable path => "reading world manifest " ++ path
  | .unparsable path => "parsing world manifest " ++ path
  | .unbuildable path _ => "building world " ++ path

/-- The text of a file. -/
def readText (path : String) : m (Option String) := do
  return (← (FileSystem.readFile path : m (Option Bytes))).bind Bytes.text?

/-- The value that a JSON text spells. -/
def ofJsonText? {α : Type} [Written α] (text : String) : Option α :=
  (Json.parse? text).bind (Written.read .json)

/-- What is noted of a world that was loaded. -/
def World.loadNote (world : World) (path : String) : TraceEntry :=
  .note .info ("loaded world " ++ path ++ " (" ++ toString world.library.behaviors.size ++
    " behaviors, " ++ toString world.manifest.entities.length ++ " entities)")

/-- The world of the manifest in a file. -/
def World.load (path : String) : ExceptT LoadError m World := do
  match ← (readText path : m (Option String)) with
  | none => throw (.unreadable path)
  | some text =>
    match (ofJsonText? text : Option Manifest) with
    | none => throw (.unparsable path)
    | some manifest =>
      let building : ExceptT WorldError m World := World.build manifest (parentPath path)
      match ← (building.run : m (Except WorldError World)) with
      | .ok world => return world
      | .error cause => throw (.unbuildable path cause)

end Files
end Lockstep
