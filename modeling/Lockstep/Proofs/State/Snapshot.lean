import Lockstep.Proofs.Datum.RoundTrip
import Lockstep.Proofs.Packed.RoundTrip

/-!
# Snapshots

A state is read back from its snapshot, whatever bytes follow (`State.ofSnapshot?_snapshot`). The
format has no spelling for a text, a list or a table of `2 ^ 32` parts, so the states that it can
spell are those without one (`State.Packable`). Threads are spelled without the keys that they are
kept under, so those have to be their own identities (`ThreadTable.Keyed`). Nothing else is asked of
a state: whatever is in its tables, its counters and its frames, the snapshot keeps it.

So a snapshot belongs to one state only, and does not even begin like the snapshot of another one
(`State.snapshot_canonical`). Two states with one hash are one state, or the digest has a collision.
-/

set_option autoImplicit false

namespace Lockstep

/-! ## What the format can spell -/

/-- Every text, list and table of an entity is shorter than `2 ^ 32`. -/
structure Entity.Packable (entity : Entity) : Prop where
  name : entity.name.utf8ByteSize < 0x100000000
  relationships : entity.relationships.size < 0x100000000
  sounds : entity.sounds.length < 0x100000000
  threads : entity.threads.length < 0x100000000

/-- Every text, list and table of a state is shorter than `2 ^ 32`. -/
structure State.Packable (state : State) : Prop where
  entities : state.entities.size < 0x100000000
  eachEntity : ∀ id entity, state.entities.get? id = some entity → entity.Packable
  threads : state.threads.size < 0x100000000
  frames : ∀ id thread, state.threads.get? id = some thread → thread.frames.length < 0x100000000
  owners : state.sounds.byOwner.size < 0x100000000
  channels : ∀ owner channels, state.sounds.byOwner.get? owner = some channels →
    channels.size < 0x100000000
  avatars : state.avatars.size < 0x100000000

theorem Entity.packable_iff {entity : Entity} :
    entity.Packable ↔
      entity.name.utf8ByteSize < 0x100000000 ∧ entity.relationships.size < 0x100000000 ∧
        entity.sounds.length < 0x100000000 ∧ entity.threads.length < 0x100000000 :=
  ⟨fun packable => ⟨packable.name, packable.relationships, packable.sounds, packable.threads⟩,
    fun ⟨name, relationships, sounds, threads⟩ => ⟨name, relationships, sounds, threads⟩⟩

instance (entity : Entity) : Decidable entity.Packable := decidable_of_iff _ Entity.packable_iff.symm

/-- What is said of each entry of a table is said of what is found under each key. -/
theorem Table.forall_entries_iff {κ ν : Type} [Ord κ] [Std.TransOrd κ] [Std.LawfulEqOrd κ]
    [DecidableEq κ] {table : Table κ ν} {holds : ν → Prop} :
    (∀ entry ∈ table.entries, holds entry.2) ↔
      ∀ key value, table.get? key = some value → holds value :=
  ⟨fun each key value found => each (key, value) (mem_entries_iff.mpr found),
    fun each entry member => each entry.1 entry.2 (mem_entries_iff.mp member)⟩

theorem State.packable_iff {state : State} :
    state.Packable ↔
      (state.entities.size < 0x100000000 ∧
        ∀ entry ∈ state.entities.entities.entries, entry.2.Packable) ∧
      (state.threads.size < 0x100000000 ∧
        ∀ entry ∈ state.threads.entries, entry.2.frames.length < 0x100000000) ∧
      (state.sounds.byOwner.size < 0x100000000 ∧
        ∀ entry ∈ state.sounds.byOwner.entries, entry.2.size < 0x100000000) ∧
      state.avatars.size < 0x100000000 := by
  constructor
  · intro packable
    refine ⟨⟨packable.entities, ?_⟩, ⟨packable.threads, ?_⟩, ⟨packable.owners, ?_⟩, packable.avatars⟩
    · exact Table.forall_entries_iff.mpr packable.eachEntity
    · exact Table.forall_entries_iff.mpr packable.frames
    · exact Table.forall_entries_iff.mpr packable.channels
  · rintro ⟨⟨entities, eachEntity⟩, ⟨threads, frames⟩, ⟨owners, channels⟩, avatars⟩
    exact ⟨entities, Table.forall_entries_iff.mp eachEntity, threads,
      Table.forall_entries_iff.mp frames, owners, Table.forall_entries_iff.mp channels, avatars⟩

instance (state : State) : Decidable state.Packable := decidable_of_iff _ State.packable_iff.symm

theorem ThreadTable.keyed_iff {threads : ThreadTable} :
    threads.Keyed ↔ ∀ entry ∈ threads.entries, entry.2.id = entry.1 :=
  ⟨fun keyed entry member => keyed entry.1 entry.2 (Table.mem_entries_iff.mp member),
    fun each id thread found => each (id, thread) (Table.mem_entries_iff.mpr found)⟩

instance (threads : ThreadTable) : Decidable threads.Keyed :=
  decidable_of_iff _ ThreadTable.keyed_iff.symm

/-! ## Plain values -/

/-- Every value is written without containers, within the bounds of the format. -/
class Plain (α : Type) [Written α] : Prop where
  spellable : ∀ (depth : Nat) (value : α), (Written.write value).Spellable (depth + 1)

instance : Plain UInt8 where
  spellable _ value := by
    have bound := value.toNat_lt
    show (-0x8000000000000000 : Int) ≤ value.toNat ∧ (value.toNat : Int) < 0x10000000000000000
    omega

instance : Plain UInt16 where
  spellable _ value := by
    have bound := value.toNat_lt
    show (-0x8000000000000000 : Int) ≤ value.toNat ∧ (value.toNat : Int) < 0x10000000000000000
    omega

instance : Plain UInt32 where
  spellable _ value := by
    have bound := value.toNat_lt
    show (-0x8000000000000000 : Int) ≤ value.toNat ∧ (value.toNat : Int) < 0x10000000000000000
    omega

instance : Plain UInt64 where
  spellable _ value := by
    have bound := value.toNat_lt
    show (-0x8000000000000000 : Int) ≤ value.toNat ∧ (value.toNat : Int) < 0x10000000000000000
    omega

instance : Plain Int16 where
  spellable _ value := by
    have low := value.le_toInt
    have high := value.toInt_lt
    show (-0x8000000000000000 : Int) ≤ value.toInt ∧ value.toInt < 0x10000000000000000
    omega

instance : Plain Int32 where
  spellable _ value := by
    have low := value.le_toInt
    have high := value.toInt_lt
    show (-0x8000000000000000 : Int) ≤ value.toInt ∧ value.toInt < 0x10000000000000000
    omega

instance : Plain Bool where
  spellable _ _ := trivial

instance : Plain EntityId where
  spellable depth id := Plain.spellable depth id.number

instance : Plain ClientId where
  spellable depth id := Plain.spellable depth id.number

instance : Plain ChannelId where
  spellable depth id := Plain.spellable depth id.number

instance : Plain EntityKind where
  spellable _ kind := by
    cases kind with
    | object =>
      show (Bytes.ofText "object").length < 0x100000000
      decide
    | avatar =>
      show (Bytes.ofText "avatar").length < 0x100000000
      decide

theorem spellable_option {α : Type} [Written α] {depth : Nat} {value : Option α}
    (each : ∀ held, value = some held → (Written.write held).Spellable (depth + 1)) :
    (Written.write value).Spellable (depth + 1) := by
  cases value with
  | none => trivial
  | some held => exact each held rfl

instance {α : Type} [Written α] [Plain α] : Plain (Option α) where
  spellable depth _ := spellable_option fun held _ => Plain.spellable depth held

/-! ## Containers -/

theorem spellable_list {α : Type} [Written α] {depth : Nat} {values : List α}
    (short : values.length < 0x100000000)
    (each : ∀ value ∈ values, (Written.write value).Spellable (depth + 1)) :
    (Written.write values).Spellable (depth + 2) := by
  refine ⟨Nat.succ_pos depth, by rwa [List.length_map], fun item member => ?_⟩
  obtain ⟨value, present, rfl⟩ := List.mem_map.mp member
  exact each value present

theorem spellable_vector {α : Type} [Written α] [Plain α] {count : Nat} (depth : Nat)
    (short : count < 0x100000000) (values : Vector α count) :
    (Written.write values).Spellable (depth + 2) := by
  have same : values.toList.length < 0x100000000 := by rwa [Vector.length_toList]
  exact spellable_list same fun value _ => Plain.spellable depth value

theorem spellable_table {κ ν : Type} [Ord κ] [Std.TransOrd κ] [Std.LawfulEqOrd κ] [DecidableEq κ]
    [Written κ] [Plain κ] [Written ν] {depth : Nat} {table : Table κ ν}
    (short : table.size < 0x100000000)
    (each : ∀ key value, table.get? key = some value →
      (Written.write value).Spellable (depth + 1)) :
    (Written.write table).Spellable (depth + 2) := by
  refine ⟨Nat.succ_pos depth, by rwa [List.length_map], fun entry member => ?_⟩
  obtain ⟨⟨key, value⟩, present, rfl⟩ := List.mem_map.mp member
  exact ⟨Plain.spellable depth key, each key value (Table.mem_entries_iff.mp present)⟩

/-- A record of few fields with short names. -/
theorem spellable_record {depth : Nat} {fields : List (String × Datum)}
    (few : fields.length < 0x100000000)
    (each : ∀ field ∈ fields, (Bytes.ofText field.1).length < 0x100000000 ∧
      field.2.Spellable (depth + 1)) :
    (Datum.record fields).Spellable (depth + 2) := by
  refine ⟨Nat.succ_pos depth, by rwa [List.length_map], fun entry member => ?_⟩
  obtain ⟨field, present, rfl⟩ := List.mem_map.mp member
  exact each field present

/-! ## What a state is made of -/

theorem spellable_text {depth : Nat} {text : String} (short : text.utf8ByteSize < 0x100000000) :
    (Written.write text).Spellable (depth + 1) := by
  show (Bytes.ofText text).length < 0x100000000
  exact short

theorem spellable_position (depth : Nat) (position : Position) :
    (Written.write position).Spellable (depth + 2) := by
  refine ⟨Nat.succ_pos depth, by simp, ?_⟩
  simp [Plain.spellable]

theorem spellable_sound (depth : Nat) (sound : SoundChannel) :
    (Written.write sound).Spellable (depth + 2) := by
  apply spellable_record
  · simp
  · simp +decide [Plain.spellable]

theorem spellable_animation (depth : Nat) (state : AnimationState) :
    (Written.write state).Spellable (depth + 2) := by
  apply spellable_record
  · simp
  · simp +decide [Plain.spellable]

theorem spellable_threadId (depth : Nat) (id : ThreadId) :
    (Written.write id).Spellable (depth + 2) := by
  apply spellable_record
  · simp
  · simp +decide [Plain.spellable]

theorem Entity.Packable.spellable {entity : Entity} (packable : entity.Packable) (depth : Nat) :
    (Written.write entity).Spellable (depth + 4) := by
  have name : (Written.write entity.name).Spellable (depth + 3) := spellable_text packable.name
  have animation : (Written.write entity.animation).Spellable (depth + 3) :=
    spellable_option fun state _ => spellable_animation (depth + 1) state
  have attributes := spellable_vector (depth + 1) (by decide) entity.attributes
  have relationships : (Written.write entity.relationships).Spellable (depth + 3) :=
    spellable_table packable.relationships fun _ value _ => Plain.spellable (depth + 1) value
  have sounds : (Written.write entity.sounds).Spellable (depth + 3) :=
    spellable_list packable.sounds fun sound _ => spellable_sound depth sound
  have threads : (Written.write entity.threads).Spellable (depth + 3) :=
    spellable_list packable.threads fun id _ => spellable_threadId depth id
  apply spellable_record
  · simp
  · simp +decide [Plain.spellable, spellable_position, name, attributes, relationships, animation,
      sounds, threads]

theorem spellable_pending (depth : Nat) (pending : Option UInt32) :
    ((pending.map writePending).getD .null).Spellable (depth + 2) := by
  cases pending with
  | none => trivial
  | some progress =>
    apply spellable_record
    · simp
    · simp +decide [Plain.spellable]

theorem spellable_frame (depth : Nat) (frame : StackFrame) :
    (Written.write frame).Spellable (depth + 3) := by
  have locals := spellable_vector depth (by decide) frame.locals
  have params := spellable_vector depth (by decide) frame.params
  have pending := spellable_pending depth frame.pending
  apply spellable_record
  · simp
  · simp +decide [Plain.spellable, locals, params, pending]

theorem spellable_thread (depth : Nat) {thread : Thread}
    (short : thread.frames.length < 0x100000000) :
    (Written.write thread).Spellable (depth + 5) := by
  have identity := spellable_threadId (depth + 2) thread.id
  have temps := spellable_vector (depth + 2) (by decide) thread.temps
  have frames : (Written.write thread.frames.reverse).Spellable (depth + 4) :=
    spellable_list (by rwa [List.length_reverse]) fun frame _ => spellable_frame depth frame
  apply spellable_record
  · simp
  · simp +decide [identity, temps, frames]

theorem spellable_channels (depth : Nat) {channels : KeySet ChannelId}
    (short : channels.size < 0x100000000) :
    (writeChannels channels).Spellable (depth + 2) := by
  have same : channels.keys.length < 0x100000000 := by rwa [Table.keys, List.length_map]
  exact spellable_list same fun channel _ => Plain.spellable depth channel

namespace State.Packable

variable {state : State} (packable : state.Packable)

include packable

theorem spellable_entities (depth : Nat) :
    (Written.write state.entities).Spellable (depth + 6) := by
  have entities : (Written.write state.entities.entities).Spellable (depth + 5) :=
    spellable_table packable.entities fun id entity held =>
      (packable.eachEntity id entity held).spellable depth
  apply spellable_record
  · simp
  · simp +decide [Plain.spellable, entities]

theorem spellable_threads (depth : Nat) : (writeThreads state.threads).Spellable (depth + 6) := by
  have short : state.threads.values.length < 0x100000000 := by
    rw [Table.values, List.length_map]
    exact packable.threads
  refine spellable_list short fun thread member => ?_
  obtain ⟨⟨id, held⟩, present, rfl⟩ := List.mem_map.mp member
  exact spellable_thread depth (packable.frames id held (Table.mem_entries_iff.mp present))

theorem spellable_sounds (depth : Nat) : (Written.write state.sounds).Spellable (depth + 4) := by
  have owners : (Written.write state.sounds.byOwner).Spellable (depth + 3) :=
    spellable_table packable.owners fun owner channels held =>
      spellable_channels depth (packable.channels owner channels held)
  apply spellable_record
  · simp
  · simp +decide [Plain.spellable, owners]

theorem spellable (depth : Nat) : (Written.write state).Spellable (depth + 7) := by
  have entities := packable.spellable_entities depth
  have threads := packable.spellable_threads depth
  have sounds := packable.spellable_sounds (depth + 2)
  have avatars : (Written.write state.avatars).Spellable (depth + 6) :=
    spellable_table packable.avatars fun _ id _ => Plain.spellable (depth + 4) id
  apply spellable_record
  · simp
  · simp +decide [Plain.spellable, entities, threads, sounds, avatars]

end State.Packable

/-! ## Snapshots -/

/-- A state whose threads are kept under their own identities belongs to what is written of it. -/
theorem State.write_inj {first second : State} (firstKeyed : first.threads.Keyed)
    (secondKeyed : second.threads.Keyed)
    (same : Written.write first = Written.write second) : first = second := by
  have read := State.read_write .packed firstKeyed
  rw [same, State.read_write .packed secondKeyed] at read
  exact (Option.some.inj read).symm

/-- **A state is read back from its snapshot**, whatever bytes follow it. -/
theorem State.ofSnapshot?_snapshot_append {state : State} (keyed : state.threads.Keyed)
    (packable : state.Packable) (rest : Bytes) :
    State.ofSnapshot? (state.snapshot ++ rest) = some state := by
  have datum : Packed.read (state.snapshot ++ rest) = some (Written.write state, rest) :=
    Packed.read_write (packable.spellable 1017) rest
  rw [State.ofSnapshot?, ofPackedBytes?, datum, Option.bind_some]
  exact State.read_write .packed keyed

theorem State.ofSnapshot?_snapshot {state : State} (keyed : state.threads.Keyed)
    (packable : state.Packable) : State.ofSnapshot? state.snapshot = some state := by
  have read := State.ofSnapshot?_snapshot_append keyed packable []
  rwa [List.append_nil] at read

/-- **A snapshot belongs to one state.** It is read back as that state, whatever follows it; the
snapshot of no other state begins like it; and so two states have the same hash only if they are
the same, or if two byte strings have the same digest. -/
theorem State.snapshot_canonical {state : State} (keyed : state.threads.Keyed)
    (packable : state.Packable) :
    (∀ rest, State.ofSnapshot? (state.snapshot ++ rest) = some state) ∧
      ∀ other : State, other.threads.Keyed → other.Packable →
        (∀ rest otherRest, state.snapshot ++ rest = other.snapshot ++ otherRest →
          state = other ∧ rest = otherRest) ∧
        (state.hash = other.hash → state = other ∨
          state.snapshot ≠ other.snapshot ∧
            Digest.ofBytes state.snapshot = Digest.ofBytes other.snapshot) := by
  refine ⟨State.ofSnapshot?_snapshot_append keyed packable,
    fun other otherKeyed otherPackable => ?_⟩
  have ends (rest otherRest : Bytes) (same : state.snapshot ++ rest = other.snapshot ++ otherRest) :
      state = other ∧ rest = otherRest := by
    obtain ⟨written, rests⟩ := Packed.write_append_inj (packable.spellable 1017)
      (otherPackable.spellable 1017) same
    exact ⟨State.write_inj keyed otherKeyed written, rests⟩
  refine ⟨ends, fun digests => ?_⟩
  by_cases same : state.snapshot = other.snapshot
  · exact .inl (ends [] [] (congrArg (· ++ []) same)).1
  · exact .inr ⟨same, digests⟩

/-- A state with a name beyond ASCII, numbers at their bounds and a thread that has given way. -/
def State.extreme : State :=
  let avatar : Entity := .new ⟨7⟩ .avatar "Zoë" ⟨none, [-0x8000, 0x7FFF], ⟨-0x80000000, -1⟩⟩
  let frame : StackFrame := .new 0xFFFF none (some ⟨7⟩) (Vector.replicate 4 (-0x81))
  { State.empty with
    tick := 0xFFFFFFFFFFFFFFFF
    entities := ⟨Table.empty.insert ⟨7⟩
      { avatar with
        relationships := Table.empty.insert ⟨0xFFFFFFFF⟩ (-100)
        threads := [⟨⟨7⟩, 0x100000000⟩] }, 7⟩
    threads := Table.empty.insert ⟨⟨7⟩, 0x100000000⟩
      (.new ⟨⟨7⟩, 0x100000000⟩ { frame with pending := some 0x10000 })
    avatars := Table.empty.insert ⟨0x80⟩ ⟨7⟩
    nextThreadSeq := 0x100000000 }

/-- That state comes back with a byte after it, and never begins the snapshot of the empty one. -/
theorem State.snapshot_canonical_extreme :
    State.extreme.threads.Keyed ∧ State.extreme.Packable ∧
      State.ofSnapshot? (State.extreme.snapshot ++ [0xC0]) = some State.extreme ∧
      ∀ rest, State.extreme.snapshot ++ rest ≠ State.empty.snapshot := by
  have keyed : State.extreme.threads.Keyed := by decide
  have packable : State.extreme.Packable := by decide
  have emptyKeyed : State.empty.threads.Keyed := nofun
  have emptyPackable : State.empty.Packable := by decide
  obtain ⟨read, apart⟩ := State.snapshot_canonical keyed packable
  refine ⟨keyed, packable, read [0xC0], fun rest same => ?_⟩
  have equal := (apart State.empty emptyKeyed emptyPackable).1 rest []
    (by rw [same, List.append_nil])
  have ticks : State.extreme.tick = State.empty.tick := congrArg State.tick equal.1
  exact absurd ticks (by decide)

end Lockstep
