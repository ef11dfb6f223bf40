import Lockstep.Behavior.Container
import Lockstep.Behavior.Listing
import Lockstep.CommandLine.Program
import Lockstep.World

/-!
# The listing program

Lists the behavior in a file, or in all containers below a directory, as text or as JSON.
-/

set_option autoImplicit false

namespace Lockstep.CommandLine

variable {m : Type → Type} [Monad m] [FileSystem m]

/-- How deep directories are searched. -/
def searchDepth : Nat := 2048

/-- The containers below a directory, in the order of names, where a directory stands for what is in
it. -/
def containersBelow : Nat → String → m (Option (List String))
  | 0, _ => pure none
  | depth + 1, directory => do
    match ← (FileSystem.listDirectory directory : m (Option (List DirectoryEntry))) with
    | none => return none
    | some entries =>
      let found ← entries.mapM fun entry => do
        let path := joinPath directory entry.name
        match entry.kind with
        | .directory => containersBelow depth path
        | .file => return some (if namesContainer entry.name then [path] else [])
        | .other => return some []
      return (found.mapM id).map List.flatten

/-- The files that an argument stands for: a file for itself, and a directory for the containers
below it. -/
def listedFiles (input : String) : ExceptT String m (List String) := do
  let found : Option (List String) ← match ← (FileSystem.kind? input : m (Option EntryKind)) with
    | some .file => pure (some [input])
    | some .directory => (containersBelow searchDepth input : m (Option (List String)))
    | some .other => pure (some [])
    | none => pure none
  match found with
  | some paths => return paths
  | none => throw ("scanning " ++ input)

/-- The listing of a file. -/
def listFile (path : String) : ExceptT String m Listing := do
  match ← (FileSystem.readFile path : m (Option Bytes)) with
  | none => throw ("reading behavior " ++ path)
  | some bytes =>
    match Behavior.ofBytes bytes with
    | .ok (behavior, _) => return ⟨path, behavior⟩
    | .error _ => throw ("parsing behavior " ++ path)

/-- The listings of all files that an argument stands for. -/
def listAll (input : String) : ExceptT String m (List Listing) := do
  (← listedFiles input).mapM listFile

/-- What the listing program does. -/
def dumpBody (arguments : Arguments) : ExceptT String m Unit := do
  let listings ← listAll (arguments.others.headD "")
  let lines :=
    if arguments.has "json" then [Json.pretty 0 (.list (listings.map Listing.datum))]
    else listings.flatMap Listing.lines
  (printLines lines : m Unit)

/-- The listing program. -/
def dump : Program m where
  name := "bhav_dump"
  version := "sima_formats 0.1.0"
  about := "Dump SimAntics behavior containers"
  specs := [⟨"json", .flag, "Emit a JSON listing instead of the text table", none⟩]
  required := []
  others := [⟨"<INPUT>", "A .bhav file or a directory scanned recursively for .bhav files"⟩]
  body := dumpBody

end Lockstep.CommandLine
