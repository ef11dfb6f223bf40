import Lockstep.Bytes.Text
import Lockstep.Text.Cut

/-!
# Files

Programs read and write files through the operations of `FileSystem`, each of which may fail without
saying why, and print their results and errors. A `FileTree` is a system of files as a value, so
that a program can be run on it without touching any disk. Its directories are those that its files
are in, those that were made, and the usual ones at the root. There are devices too, which keep
nothing of what is written to them; what is written to the devices that stand for the outputs of the
program itself is printed.

Paths are texts with slashes. A path that begins with a slash leads from the root, and every other
path from the directory that the program works in (`FileTree.home`). A path of 4096 bytes or more,
or one that leads through a name of more than 255 bytes, names nothing, nor does one with the zero
character in it.
-/

set_option autoImplicit false

namespace Lockstep

/-- What a path can name. -/
inductive EntryKind where
  | file
  | directory
  /-- Neither, such as a device. -/
  | other
  deriving DecidableEq, Inhabited

/-- A name in a directory. -/
structure DirectoryEntry where
  name : String
  kind : EntryKind
  deriving DecidableEq, Inhabited

/-- Where programs print. -/
inductive Output where
  /-- What a program was asked for. -/
  | results
  /-- What went wrong. -/
  | errors
  deriving DecidableEq, Inhabited

/-- What programs need of files and of their outputs. -/
class FileSystem (m : Type → Type) where
  /-- What a path names. -/
  kind? : String → m (Option EntryKind)
  /-- The contents of a file. -/
  readFile : String → m (Option Bytes)
  /-- The names in a directory, in ascending order. -/
  listDirectory : String → m (Option (List DirectoryEntry))
  /-- Put a file in place of whatever the path names, unless that is a directory. -/
  writeFile : String → Bytes → m Bool
  /-- Make a directory, and those that it is in, where they are missing. Those that were made before
  one could not be made are kept. -/
  makeDirectory : String → m Bool
  /-- Print a text. -/
  print : Output → String → m Unit

/-- Print lines of results. -/
def printLines {m : Type → Type} [FileSystem m] (lines : List String) : m Unit :=
  FileSystem.print .results (String.join (lines.map fun line => line ++ "\n"))

/-! ## Paths -/

/-- The texts before, between and after the slashes of a path. -/
def cutPath (path : String) : List String := (cutAt '/' path.toList).map String.ofList

/-- The names that a path leads through. -/
def pathParts (path : String) : List String :=
  (cutPath path).filter fun part => part ≠ "" ∧ part ≠ "."

/-- Whether a name is short enough for a directory. -/
def isName (part : String) : Bool := part.utf8ByteSize ≤ 255

/-- Whether a text is one that could name something. -/
def isPath (path : String) : Bool :=
  path ≠ "" && path.utf8ByteSize < 4096 && path.toList.all fun character => character.toNat ≠ 0

/-- Whether a path can only name a directory. -/
def namesDirectory (path : String) : Bool :=
  match (cutPath path).getLast? with
  | some last => last = "" ∨ last = "." ∨ last = ".."
  | none => true

/-- A path inside the directory that another path names. -/
def joinPath (base path : String) : String :=
  if path.startsWith "/" ∨ base = "" then path
  else if base.endsWith "/" then base ++ path
  else base ++ "/" ++ path

/-- Drop what does not count at the end of a path that is written from its end. -/
def trimReversed : List String → List String
  | "" :: rest => trimReversed rest
  | ["."] => ["."]
  | "." :: rest => trimReversed rest
  | parts => parts

/-- The path of the directory that a path is in; empty for a single name. -/
def parentPath (path : String) : String :=
  match trimReversed (cutPath path).reverse with
  | [] => ""
  | _ :: rest =>
    let parent := "/".intercalate (trimReversed rest).reverse
    if parent = "" ∧ path.startsWith "/" then "/" else parent

/-- What follows the last point of a name, unless the name begins with that point. -/
def extension? (name : String) : Option String :=
  let reversed := name.toList.reverse
  match reversed.dropWhile (· ≠ '.') with
  | _ :: _ :: _ => some (String.ofList (reversed.takeWhile (· ≠ '.')).reverse)
  | _ => none

/-! ## Trees -/

/-- Files by the parts of their paths from the root, directories that were made, and the results and
errors that were printed. -/
structure FileTree where
  files : List (List String × Bytes)
  made : List (List String)
  results : String
  errors : String

namespace FileTree

/-- The directory that programs work in. -/
def home : List String := ["tmp", "work"]

/-- The directories that are there from the start. -/
def usualDirectories : List (List String) :=
  [home, ["bin"], ["boot"], ["dev"], ["etc"], ["home"], ["lib"], ["media"], ["mnt"], ["opt"], ["proc"],
    ["root"], ["run"], ["sbin"], ["srv"], ["sys"], ["tmp"], ["usr"], ["var"]]

/-- The directories in which nothing can be made. -/
def sealedDirectories : List (List String) := [["proc"], ["sys"]]

/-- The files that are there from the start. Programs have no use for what is in them. -/
def usualFiles : List (List String) :=
  [["etc", "group"], ["etc", "hostname"], ["etc", "hosts"], ["etc", "passwd"]]

/-- The device that has no room for anything. -/
def fullDevice : List String := ["dev", "full"]

/-- The devices that stand for the input and the outputs of the program that looks at them. -/
def ownDevices : List (List String × Option Output) :=
  [(["proc", "self", "fd", "0"], none), (["proc", "self", "fd", "1"], some .results),
    (["proc", "self", "fd", "2"], some .errors)]

/-- The devices. -/
def devices : List (List String) :=
  [["dev", "null"], ["dev", "zero"], fullDevice, ["dev", "random"], ["dev", "urandom"]] ++
    ownDevices.map Prod.fst

/-- Places that stand for other places. -/
def links : List (List String × List String) :=
  [(["dev", "fd"], ["proc", "self", "fd"]), (["dev", "stdin"], ["proc", "self", "fd", "0"]),
    (["dev", "stdout"], ["proc", "self", "fd", "1"]), (["dev", "stderr"], ["proc", "self", "fd", "2"]),
    (["proc", "thread-self"], ["proc", "self"]), (["proc", "self", "cwd"], home),
    (["proc", "self", "root"], [])]

/-- The place that a place stands for. -/
def linked (place : List String) : List String :=
  ((links.find? fun link => link.1 = place).map Prod.snd).getD place

/-- The tree with no files of its own. -/
def empty : FileTree where
  files := (usualFiles ++ devices).map fun parts => (parts, [])
  made := usualDirectories
  results := ""
  errors := ""

instance : Inhabited FileTree := ⟨empty⟩

/-- Whether parts name a directory. -/
def isDirectory (tree : FileTree) (parts : List String) : Bool :=
  parts.isEmpty || tree.made.any (parts.isPrefixOf ·) ||
    tree.files.any fun file => parts.isPrefixOf file.1 && parts.length < file.1.length

/-- The contents of the file that parts name. -/
def contents? (tree : FileTree) (parts : List String) : Option Bytes :=
  (tree.files.find? fun file => file.1 = parts).map Prod.snd

/-- What parts name. -/
def kindAt? (tree : FileTree) (parts : List String) : Option EntryKind :=
  if tree.isDirectory parts then some .directory
  else if devices.contains parts then some .other
  else (tree.contents? parts).map fun _ => .file

/-- Follow the parts of a path from a directory. -/
def follow (tree : FileTree) : List String → List String → Option (List String)
  | place, [] => some place
  | place, part :: rest =>
    if !tree.isDirectory place || !isName part then none
    else if part = ".." then tree.follow place.dropLast rest
    else tree.follow (linked (place ++ [part])) rest

/-- The directory that a path leads from. -/
def start (path : String) : List String := if path.startsWith "/" then [] else home

/-- The parts of what a path names or could name. -/
def resolve (tree : FileTree) (path : String) : Option (List String) :=
  if isPath path then tree.follow (start path) (pathParts path) else none

/-- What a path names. -/
def kind? (tree : FileTree) (path : String) : Option EntryKind :=
  ((tree.resolve path).bind tree.kindAt?).filter fun kind =>
    kind = .directory || !namesDirectory path

/-- The contents of the file that a path names. -/
def read (tree : FileTree) (path : String) : Option Bytes :=
  if namesDirectory path then none else (tree.resolve path).bind tree.contents?

/-- Put an entry into a list of entries, by name. -/
def placeEntry (entry : DirectoryEntry) : List DirectoryEntry → List DirectoryEntry
  | [] => [entry]
  | other :: rest =>
    if entry.name < other.name then entry :: other :: rest
    else if entry.name = other.name then other :: rest
    else other :: placeEntry entry rest

/-- The names in the directory that a path names. -/
def list (tree : FileTree) (path : String) : Option (List DirectoryEntry) := do
  let place ← tree.resolve path
  if tree.isDirectory place then
    let below := (tree.files.map Prod.fst ++ tree.made).filter fun parts =>
      place.isPrefixOf parts && place.length < parts.length
    let entries := below.filterMap fun parts => do
      let name ← parts[place.length]?
      let kind ← tree.kindAt? (place ++ [name])
      some (DirectoryEntry.mk name kind)
    some (entries.foldl (fun placed entry => placeEntry entry placed) [])
  else none

/-- The tree after a text was printed. -/
def print (tree : FileTree) (output : Output) (text : String) : FileTree :=
  match output with
  | .results => { tree with results := tree.results ++ text }
  | .errors => { tree with errors := tree.errors ++ text }

/-- Whether nothing can be made at a place. -/
def isSealed (place : List String) : Bool := sealedDirectories.any (·.isPrefixOf place)

/-- The tree with a file put in place. -/
def write (tree : FileTree) (path : String) (contents : Bytes) : Option FileTree := do
  let place ← if namesDirectory path then none else tree.resolve path
  if tree.isDirectory place || place = fullDevice then none
  else if let some (_, output) := ownDevices.find? fun device => device.1 = place then
    return tree.print (← output) (← contents.text?)
  else if devices.contains place then some tree
  else if tree.isDirectory place.dropLast && !isSealed place then
    some { tree with files := (place, contents) :: tree.files.filter fun file => file.1 ≠ place }
  else none

/-- Make the directories that the parts of a path lead through, as far as that is possible. -/
def makeAlong (tree : FileTree) : List String → List String → Bool × FileTree
  | _, [] => (true, tree)
  | place, part :: rest =>
    if part = ".." then tree.makeAlong place.dropLast rest
    else
      let place := linked (place ++ [part])
      if (tree.contents? place).isSome || !isName part then (false, tree)
      else if tree.isDirectory place then tree.makeAlong place rest
      else if isSealed place then (false, tree)
      else { tree with made := place :: tree.made }.makeAlong place rest

/-- The tree with a directory made, and whether it could be made. -/
def make (tree : FileTree) (path : String) : Bool × FileTree :=
  if isPath path then tree.makeAlong (start path) (pathParts path) else (false, tree)

/-- The tree with a file put in place, and the directories that it is in. -/
def put (tree : FileTree) (path : String) (contents : Bytes) : FileTree :=
  let tree := (tree.make (parentPath path)).2
  (tree.write path contents).getD tree

/-- The tree with some files in the directory that programs work in, by path. -/
def ofFiles (files : List (String × Bytes)) : FileTree :=
  files.foldl (fun tree file => tree.put file.1 file.2) empty

end FileTree

/-- A program that changes a tree of files. -/
abbrev OnTree := StateM FileTree

instance : FileSystem OnTree where
  kind? path := fun tree => (tree.kind? path, tree)
  readFile path := fun tree => (tree.read path, tree)
  listDirectory path := fun tree => (tree.list path, tree)
  writeFile path contents := fun tree =>
    match tree.write path contents with
    | some written => (true, written)
    | none => (false, tree)
  makeDirectory path := fun tree => tree.make path
  print output text := fun tree => ((), tree.print output text)

end Lockstep
