import Lockstep.Entity

/-!
# Threads

A thread runs the instructions of a behavior on behalf of an entity. It has a stack of frames, one
for each behavior that has been called and not yet left, and eight temporary values that all its
frames share. The frames are listed with the innermost first; in data the outermost comes first.
-/

set_option autoImplicit false

namespace Lockstep

/-- How many frames a thread may have. -/
def maxStackDepth : Nat := 64

/-- One call of a behavior. -/
structure StackFrame where
  behavior : UInt16
  pc : UInt8
  locals : Vector Int16 8
  params : Vector Int16 4
  stackObject : Option EntityId
  caller : Option EntityId
  /-- How far the instruction had come when it gave way, if it gave way. -/
  pending : Option UInt32
  /-- Whether an error in this frame takes the false branch of the calling instruction. -/
  catchErrors : Bool
  deriving DecidableEq, Inhabited

/-- The frame at the first instruction of a behavior. -/
def StackFrame.new (behavior : UInt16) (caller stackObject : Option EntityId)
    (params : Vector Int16 4) : StackFrame where
  behavior
  pc := 0
  locals := Vector.replicate 8 0
  params
  stackObject
  caller
  pending := none
  catchErrors := false

/-- A thread under its identity, with its temporary values and its frames, innermost frame first. -/
structure Thread where
  id : ThreadId
  temps : Vector Int16 8
  frames : List StackFrame
  deriving DecidableEq, Inhabited

/-- A thread with one frame. -/
def Thread.new (id : ThreadId) (root : StackFrame) : Thread := ⟨id, Vector.replicate 8 0, [root]⟩

/-- The threads by identity, in the order in which they run. -/
abbrev ThreadTable := Table ThreadId Thread

/-- Every thread is kept under its own identity. -/
def ThreadTable.Keyed (threads : ThreadTable) : Prop :=
  ∀ id thread, threads.get? id = some thread → thread.id = id

/-! ## As data -/

/-- The progress of an instruction that gave way, as data. -/
def writePending (progress : UInt32) : Datum := .record [("progress", Written.write progress)]

/-- The progress of an instruction that gave way. -/
def readPending (encoding : Encoding) (datum : Datum) : Option UInt32 := do
  let fields ← datum.fields? encoding ["progress"]
  fields.required "progress"

instance : Written StackFrame where
  write frame := .record
    [("behavior", Written.write frame.behavior), ("pc", Written.write frame.pc),
      ("locals", Written.write frame.locals), ("params", Written.write frame.params),
      ("stack_object", Written.write frame.stackObject), ("caller", Written.write frame.caller),
      ("pending", (frame.pending.map writePending).getD .null),
      ("catch_errors", Written.write frame.catchErrors)]
  read encoding datum := do
    let fields ← datum.fields? encoding
      ["behavior", "pc", "locals", "params", "stack_object", "caller", "pending", "catch_errors"]
    let behavior ← fields.required "behavior"
    let pc ← fields.required "pc"
    let locals ← fields.required "locals"
    let params ← fields.required "params"
    let stackObject ← fields.optional "stack_object"
    let caller ← fields.optional "caller"
    let pending ← match fields.find? "pending" with
      | none => if fields.positional then none else some none
      | some .null => some none
      | some datum => (readPending encoding datum).map some
    let catchErrors ← fields.required "catch_errors"
    some { behavior, pc, locals, params, stackObject, caller, pending, catchErrors }

instance : Written Thread where
  write thread := .record
    [("id", Written.write thread.id), ("temps", Written.write thread.temps),
      ("frames", Written.write thread.frames.reverse)]
  read encoding datum := do
    let fields ← datum.fields? encoding ["id", "temps", "frames"]
    let id ← fields.required "id"
    let temps ← fields.required "temps"
    let frames : List StackFrame ← fields.required "frames"
    some ⟨id, temps, frames.reverse⟩

/-- The threads of a table as a list of data, without the keys that they are found under. -/
def writeThreads (threads : ThreadTable) : Datum := Written.write threads.values

/-- The threads in a list of data, each under its own identity. The last with an identity counts. -/
def readThreads (encoding : Encoding) (datum : Datum) : Option ThreadTable := do
  let threads : List Thread ← Written.read encoding datum
  some (Table.ofList (threads.map fun thread => (thread.id, thread)))

end Lockstep
