import Lockstep.CommandLine.Dump
import Lockstep.CommandLine.Engine
import Lockstep.CommandLine.Observer

/-!
# The command line

The first argument says which of the three programs to run, and the others are its own. This is
the only module that reads or writes anything outside.
-/

set_option autoImplicit false

namespace Lockstep

/-- What an action gives, unless it fails. -/
def attemptOnDisk {α : Type} (action : IO α) : IO (Option α) :=
  try
    return some (← action)
  catch _ =>
    return none

/-- The kind of what the disk says of a path. -/
def kindOnDisk (data : IO.FS.Metadata) : EntryKind :=
  match data.type with
  | .file => .file
  | .dir => .directory
  | _ => .other

/-- The files of the disk. -/
instance : FileSystem IO where
  kind? path := attemptOnDisk do
    let place ← IO.FS.realPath path
    return kindOnDisk (← place.metadata)
  readFile path := do
    return (← attemptOnDisk (IO.FS.readBinFile path)).map fun contents => contents.data.toList
  listDirectory path := attemptOnDisk do
    let place ← IO.FS.realPath path
    let found ← (← place.readDir).toList.mapM fun entry => do
      return (⟨entry.fileName, kindOnDisk (← entry.path.symlinkMetadata)⟩ : DirectoryEntry)
    return found.mergeSort fun first second => first.name ≤ second.name
  writeFile path contents := do
    return (← attemptOnDisk (IO.FS.writeBinFile path ⟨contents.toArray⟩)).isSome
  makeDirectory path := do
    return (← attemptOnDisk (IO.FS.createDirAll path)).isSome
  print output text := do
    let stream ← match output with
      | .results => IO.getStdout
      | .errors => IO.getStderr
    stream.putStr text
    stream.flush

/-- A server that no client can come to only needs an address that it could take. -/
def listenOnDisk (text : String) : IO (Option String) :=
  return (Address.ofText? text).map Address.text

/-- The programs by name. -/
def programs : List (String × CommandLine.Program IO) :=
  [("engine", CommandLine.engine listenOnDisk), ("dump", CommandLine.dump),
    ("observer", CommandLine.observer)]

end Lockstep

/-- Run the program that the first argument names. -/
def main (arguments : List String) : IO UInt32 := do
  match arguments with
  | [] =>
    IO.eprintln "usage: lockstep engine|dump|observer ARGUMENTS"
    return 2
  | name :: rest =>
    match Lockstep.programs.find? fun program => program.1 = name with
    | some (_, program) => return UInt32.ofNat (← program.run rest).code
    | none =>
      IO.eprintln "usage: lockstep engine|dump|observer ARGUMENTS"
      return 2
