import Lockstep.Primitive.Fault
import Lockstep.Random
import Lockstep.State

/-!
# What a primitive can reach

A primitive acts for the entity that its thread belongs to. From there it reaches the caller, the
stack object, and what the entity carries, and nothing else. It reads and writes the frame that is
running and the thread's temporary values, opens and closes sound channels, draws random numbers
and asks for entities to be removed, which happens after it has returned.

Variables are read with `Context.read` and written with `Context.write`. A variable that cannot be
read or written changes nothing.
-/

set_option autoImplicit false

namespace Lockstep

/-- What a primitive works on. -/
structure Context where
  owner : EntityId
  entities : EntityTable
  sounds : SoundIndex
  frame : StackFrame
  temps : Vector Int16 8
  random : Random.Stream
  effects : Effects
  /-- The entities that are to be removed, in the order in which that was asked for. -/
  removals : List EntityId
  deriving DecidableEq

/-- An entity within reach. -/
inductive Target where
  | me | caller | stackObject | carried
  deriving DecidableEq, Inhabited

namespace Context

/-! ## Entities -/

/-- An identity, if its entity is alive. -/
def alive? (context : Context) (id : EntityId) : Option EntityId :=
  if context.entities.contains id then some id else none

/-- The identity of an entity within reach, if there is one and it is alive. -/
def resolve (context : Context) : Target → Option EntityId
  | .me => context.alive? context.owner
  | .caller => context.frame.caller.bind context.alive?
  | .stackObject => context.frame.stackObject.bind context.alive?
  | .carried =>
    ((context.entities.get? context.owner).bind Entity.carrying).bind context.alive?

/-- An entity within reach. -/
def entity? (context : Context) (target : Target) : Option Entity :=
  (context.resolve target).bind context.entities.get?

/-- Change an entity. -/
def modifyEntity (context : Context) (id : EntityId) (change : Entity → Entity) : Context :=
  { context with entities := context.entities.modify id change }

/-- Choose the stack object. -/
def setStackObject (context : Context) (id : Option EntityId) : Context :=
  { context with frame := { context.frame with stackObject := id } }

/-- The live entity that a value names. -/
def liveEntity? (context : Context) (value : Int16) : Option EntityId :=
  if 0 < value then context.alive? ⟨UInt32.ofNat value.toInt.toNat⟩ else none

/-! ## Effects -/

/-- Add a line. -/
def addEvent (context : Context) (text : String) : Context :=
  { context with effects := context.effects.addEvent text }

/-- Add a message to a client. -/
def addNotice (context : Context) (notice : Notice) : Context :=
  { context with effects := context.effects.addNotice notice }

/-- Ask for an entity to be removed, once. -/
def deferRemoval (context : Context) (id : EntityId) : Context :=
  if id ∈ context.removals then context
  else { context with removals := context.removals ++ [id] }

/-- Start a sound on a new channel of a live entity. -/
def playSound (context : Context) (owner : EntityId) (sound : UInt32) (volume : UInt8)
    (looping : Bool) : ChannelId × Context :=
  let (channel, index) := context.sounds.allocate
  let held : SoundChannel := { channel, sound, volume, looping, owner }
  (channel,
    { context with
      entities := context.entities.modify owner fun entity =>
        { entity with sounds := entity.sounds ++ [held] }
      sounds := index.insert owner channel
      effects := context.effects.addTrace [.sound (.play channel sound volume owner)] })

/-- Stop all sounds of an entity, and count them. -/
def stopSounds (context : Context) (owner : EntityId) : Nat × Context :=
  let (released, entities, sounds) := releaseSounds context.entities context.sounds owner
  let trace := released.map fun channel => TraceEntry.sound (.release channel owner)
  (released.length, { context with entities, sounds, effects := context.effects.addTrace trace })

/-! ## Variables -/

/-- The place that a variable names among so many. -/
def slot (reference : VarRef) (count : Nat) : Except PrimitiveFault (Fin count) :=
  let place := reference.data.toInt.toNat
  if within : 0 ≤ reference.data ∧ place < count then .ok ⟨place, within.2⟩
  else .error (.slotOutOfRange reference.scope reference.data)

/-- The values with the one at a place replaced. -/
def setSlot {count : Nat} (values : Vector Int16 count) (place : Fin count) (value : Int16) :
    Vector Int16 count :=
  values.set place.val value place.isLt

/-- An entity within reach, or a fault. -/
def requireTarget (context : Context) (target : Target) (fault : PrimitiveFault) :
    Except PrimitiveFault (EntityId × Entity) :=
  match context.resolve target with
  | none => .error fault
  | some id =>
    match context.entities.get? id with
    | none => .error fault
    | some entity => .ok (id, entity)

/-- An entity within reach whose attributes a scope holds. -/
def attributeOwner (context : Context) (target : Target) : Except PrimitiveFault (EntityId × Entity) :=
  context.requireTarget target <|
    match target with
    | .stackObject => .noStackObject
    | .caller => .noCaller
    | _ => .missingEntity context.owner

/-- An attribute of an entity within reach. -/
def readAttribute (context : Context) (target : Target) (reference : VarRef) :
    Except PrimitiveFault Int16 := do
  let (_, entity) ← context.attributeOwner target
  let place ← slot reference 16
  .ok (entity.attributes.get place)

/-- Set an attribute of an entity within reach. -/
def writeAttribute (context : Context) (target : Target) (reference : VarRef) (value : Int16) :
    Except PrimitiveFault Context := do
  let (id, _) ← context.attributeOwner target
  let place ← slot reference 16
  .ok (context.modifyEntity id fun entity =>
    { entity with attributes := setSlot entity.attributes place value })

/-- The value of a variable. -/
def read (context : Context) (reference : VarRef) : Except PrimitiveFault Int16 :=
  match reference.scope with
  | .literal => .ok reference.data
  | .temp => (slot reference 8).map context.temps.get
  | .localVar => (slot reference 8).map context.frame.locals.get
  | .param => (slot reference 4).map context.frame.params.get
  | .myAttribute => context.readAttribute .me reference
  | .stackObjectAttribute => context.readAttribute .stackObject reference
  | .callerAttribute => context.readAttribute .caller reference
  | .stackObjectId =>
    match context.resolve .stackObject with
    | none => .ok 0
    | some id =>
      if id.number ≤ 0x7FFF then .ok (Int16.ofNat id.number.toNat) else .error (.idOverflow id)

/-- Set a variable. -/
def write (context : Context) (reference : VarRef) (value : Int16) : Except PrimitiveFault Context :=
  match reference.scope with
  | .literal => .error (.readOnly .literal)
  | .temp => (slot reference 8).map fun place =>
    { context with temps := setSlot context.temps place value }
  | .localVar => (slot reference 8).map fun place =>
    let locals := setSlot context.frame.locals place value
    { context with frame := { context.frame with locals } }
  | .param => (slot reference 4).map fun place =>
    let params := setSlot context.frame.params place value
    { context with frame := { context.frame with params } }
  | .myAttribute => context.writeAttribute .me reference value
  | .stackObjectAttribute => context.writeAttribute .stackObject reference value
  | .callerAttribute => context.writeAttribute .caller reference value
  | .stackObjectId =>
    if value = 0 then .ok (context.setStackObject none)
    else
      match context.liveEntity? value with
      | some id => .ok (context.setStackObject (some id))
      | none => .error (.unknownObjectId value)

end Context
end Lockstep
