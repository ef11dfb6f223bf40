import Lockstep.Digest
import Lockstep.Thread
import Lockstep.Trace

/-!
# The state of a simulation

A `State` is everything that changes while a simulation runs. It is what a replica starts from,
and what the hash of a tick is taken of. Both are made of its MessagePack form, so two states with
the same snapshot are the same state.

The operations here are the ones that keep several tables in step: starting and removing threads,
and taking an entity out of the world together with all that refers to it.
-/

set_option autoImplicit false

namespace Lockstep

/-- Everything that changes while a simulation runs. -/
structure State where
  tick : UInt64
  entities : EntityTable
  threads : ThreadTable
  sounds : SoundIndex
  /-- The avatar of each client that has one. -/
  avatars : Table ClientId EntityId
  /-- The number of the thread that was started last. -/
  nextThreadSeq : UInt64
  deriving DecidableEq, Inhabited

namespace State

/-- The state before the first tick, with nothing in it. -/
def empty : State := ⟨0, EntityTable.empty, Table.empty, SoundIndex.empty, Table.empty, 0⟩

/-! ## Threads -/

/-- Start a thread of a live entity at the first instruction of a behavior. -/
def startThread (state : State) (owner : EntityId) (behavior : UInt16)
    (caller stackObject : Option EntityId) (params : Vector Int16 4) : Option (ThreadId × State) :=
  if state.entities.contains owner then
    let seq := state.nextThreadSeq + 1
    let id : ThreadId := ⟨owner, seq⟩
    let thread := Thread.new id (StackFrame.new behavior caller stackObject params)
    let entities := state.entities.modify owner fun entity =>
      { entity with threads := entity.threads ++ [id] }
    some (id,
      { state with entities, threads := state.threads.insert id thread, nextThreadSeq := seq })
  else none

/-- Remove a thread, also from the list of its owner. -/
def removeThread (state : State) (id : ThreadId) : State :=
  { state with
    threads := state.threads.erase id
    entities := state.entities.modify id.owner fun entity =>
      { entity with threads := entity.threads.filter (· ≠ id) } }

/-! ## Entities -/

/-- Remove some threads from the table of threads. -/
def eraseThreads (threads : ThreadTable) (ids : List ThreadId) : ThreadTable :=
  ids.foldl Table.erase threads

/-- Cut the links of other entities to one that has gone. -/
def cutLinks (entities : EntityTable) (gone : Entity) (id : EntityId) : EntityTable :=
  let released := match gone.carrying with
    | some held => entities.modify held fun entity => { entity with carriedBy := none }
    | none => entities
  let freed := match gone.carriedBy with
    | some carrier => released.modify carrier fun entity => { entity with carrying := none }
    | none => released
  { freed with
    entities := freed.entities.mapValues fun _ entity =>
      { entity with relationships := entity.relationships.erase id } }

/-- Take an entity out of the world: its threads end, its sounds stop, all links to it are cut, and
its client has no avatar any more. Gives nothing if there is no such entity, and otherwise what
goes into the trace. -/
def despawn (state : State) (id : EntityId) : Option (List TraceEntry × State) :=
  (state.entities.get? id).map fun gone =>
    let (released, entities, sounds) := releaseSounds state.entities state.sounds id
    let avatars := match gone.client with
      | some client => state.avatars.erase client
      | none => state.avatars
    let trace := released.map fun channel => TraceEntry.sound (.release channel id)
    (trace ++ [.note .debug ("despawned " ++ id.text ++ " (" ++ gone.name ++ ")")],
      { state with
        entities := cutLinks (entities.erase id) gone id
        threads := eraseThreads state.threads gone.threads
        sounds
        avatars })

end State

/-! ## As data -/

instance : Written State where
  write state := .record
    [("tick", Written.write state.tick), ("entities", Written.write state.entities),
      ("threads", writeThreads state.threads), ("sounds", Written.write state.sounds),
      ("avatars", Written.write state.avatars),
      ("next_thread_seq", Written.write state.nextThreadSeq)]
  read encoding datum := do
    let fields ← datum.fields? encoding
      ["tick", "entities", "threads", "sounds", "avatars", "next_thread_seq"]
    let tick ← fields.required "tick"
    let entities ← fields.required "entities"
    let threads ← (fields.find? "threads").bind (readThreads encoding)
    let sounds ← fields.required "sounds"
    let avatars ← fields.required "avatars"
    let nextThreadSeq ← fields.required "next_thread_seq"
    some ⟨tick, entities, threads, sounds, avatars, nextThreadSeq⟩

namespace State

/-- The bytes that a replica starts from. -/
def snapshot (state : State) : Bytes := Packed.write (Written.write state)

/-- The state of a snapshot, whatever bytes follow it. -/
def ofSnapshot? (bytes : Bytes) : Option State := ofPackedBytes? bytes

/-- The digest of a state's snapshot. -/
def hash (state : State) : Bytes := Digest.ofBytes state.snapshot

end State
end Lockstep
