import Lockstep.Proofs.Entity.Field
import Lockstep.Proofs.State.Numbered

/-!
# Threads and their owners

A thread is written down in two places: in the table of threads, and in the list of the entity that
it belongs to. The two agree (`State.Registered`). Every edit keeps this, as long as the counters
do not run over, so it holds wherever edits lead from the empty state (`State.Edits.registered`).

Edits do three things to threads. Either none is started or removed, or an entity gets a thread with
the next number (`State.Registered.start`), or some threads are taken out of both places
(`State.Registered.shrink`): one, because it has ended, or all of an entity, because that has gone.
-/

set_option autoImplicit false

namespace Lockstep.State

/-- The threads that an entity lists. One that is not alive lists none. -/
def threadsOf (state : State) (owner : EntityId) : List ThreadId :=
  state.entities.field Entity.threads [] owner

/-- The table of threads and the lists of entities agree, when so many threads were started. -/
structure Registered (state : State) (started : Nat) : Prop where
  /-- A thread is in the table when its owner lists it. -/
  listed : ∀ id, state.threads.contains id = true ↔ id ∈ state.threadsOf id.owner
  owned : ∀ owner, ∀ id ∈ state.threadsOf owner, id.owner = owner
  ascending : ∀ owner,
    (state.threadsOf owner).Pairwise fun first second => first.seq < second.seq
  /-- No number is given out to two threads. -/
  distinct : ∀ first second, state.threads.contains first = true →
    state.threads.contains second = true → first.seq = second.seq → first = second
  /-- Every start has used up one number. -/
  count : state.nextThreadSeq.toNat = started
  bound : ∀ id, state.threads.contains id = true → id.seq ≤ state.nextThreadSeq

theorem registered_empty : State.empty.Registered 0 where
  listed _ := ⟨fun present => absurd present Bool.false_ne_true,
    fun member => absurd member List.not_mem_nil⟩
  owned _ _ member := absurd member List.not_mem_nil
  ascending _ := .nil
  distinct _ _ present := absurd present Bool.false_ne_true
  count := rfl
  bound _ present := absurd present Bool.false_ne_true

/-- Threads are erased one after the other. -/
theorem get?_eraseThreads (threads : ThreadTable) (ids : List ThreadId) (probe : ThreadId) :
    (eraseThreads threads ids).get? probe = if probe ∈ ids then none else threads.get? probe := by
  rw [eraseThreads]
  induction ids generalizing threads with
  | nil => simp
  | cons id rest inductionHypothesis =>
    rw [List.foldl_cons, inductionHypothesis, Table.get?_erase]
    by_cases later : probe ∈ rest
    · simp [later]
    · by_cases here : probe = id
      · simp [here]
      · simp [here, later]

namespace Registered

variable {state next : State} {started : Nat}

/-- No thread is started or removed. -/
theorem congr (registered : state.Registered started)
    (lists : ∀ owner, next.threadsOf owner = state.threadsOf owner)
    (table : ∀ id, next.threads.contains id = state.threads.contains id)
    (counter : next.nextThreadSeq = state.nextThreadSeq) : next.Registered started := by
  constructor
  case listed =>
    intro id
    rw [table, lists]
    exact registered.listed id
  case owned =>
    intro owner
    rw [lists]
    exact registered.owned owner
  case ascending =>
    intro owner
    rw [lists]
    exact registered.ascending owner
  case distinct =>
    intro first second
    rw [table, table]
    exact registered.distinct first second
  case count =>
    rw [counter]
    exact registered.count
  case bound =>
    intro id
    rw [table, counter]
    exact registered.bound id

/-- One entity has changed, but not its threads. -/
theorem modify (registered : state.Registered started) {id : EntityId} {change : Entity → Entity}
    (entities : next.entities = state.entities.modify id change)
    (kept : ∀ entity, (change entity).threads = entity.threads)
    (table : next.threads = state.threads) (counter : next.nextThreadSeq = state.nextThreadSeq) :
    next.Registered started := by
  refine registered.congr (fun owner => ?_) (fun id => ?_) counter
  · rw [threadsOf, entities]
    exact EntityTable.field_modify_same state.entities id owner [] kept
  · rw [table]

/-- Some threads are taken out of the table and out of the lists. -/
theorem shrink (registered : state.Registered started) (gone : ThreadId → Bool)
    (lists : ∀ owner, next.threadsOf owner = (state.threadsOf owner).filter (!gone ·))
    (table : ∀ id, next.threads.contains id = true ↔
      state.threads.contains id = true ∧ gone id = false)
    (counter : next.nextThreadSeq = state.nextThreadSeq) : next.Registered started := by
  have earlier {id : ThreadId} (present : next.threads.contains id = true) :
      state.threads.contains id = true := ((table id).mp present).1
  constructor
  case listed =>
    intro id
    rw [table, lists, List.mem_filter, registered.listed, Bool.not_eq_true']
  case owned =>
    intro owner id member
    rw [lists] at member
    exact registered.owned owner id (List.mem_filter.mp member).1
  case ascending =>
    intro owner
    rw [lists]
    exact (registered.ascending owner).filter _
  case distinct =>
    intro first second firstPresent secondPresent
    exact registered.distinct first second (earlier firstPresent) (earlier secondPresent)
  case count =>
    rw [counter]
    exact registered.count
  case bound =>
    intro id present
    rw [counter]
    exact registered.bound id (earlier present)

/-- An entity lists no thread of another one, so a test that only threads of another entity pass
leaves its list as it is. -/
theorem filter_threadsOf (registered : state.Registered started) {owner : EntityId}
    {gone : ThreadId → Bool} (others : ∀ id, gone id = true → id.owner ≠ owner) :
    (state.threadsOf owner).filter (!gone ·) = state.threadsOf owner := by
  refine List.filter_eq_self.mpr fun id member => ?_
  rw [Bool.not_eq_true', Bool.eq_false_iff]
  exact fun isGone => others id isGone (registered.owned owner id member)

/-- All threads in the table have smaller numbers than the next one. -/
theorem lt_next (registered : state.Registered started) (few : started + 1 < 2 ^ 64)
    {id : ThreadId} (present : state.threads.contains id = true) :
    id.seq < state.nextThreadSeq + 1 := by
  have bound := UInt64.le_iff_toNat_le.mp (registered.bound id present)
  have number : (state.nextThreadSeq + 1).toNat = state.nextThreadSeq.toNat + 1 := by
    rw [UInt64.toNat_add]
    exact Nat.mod_eq_of_lt (registered.count.symm ▸ few)
  exact UInt64.lt_iff_toNat_lt.mpr (number ▸ Nat.lt_succ_of_le bound)

/-- A thread of a live entity is started with the next number. -/
theorem start (registered : state.Registered started) (few : started + 1 < 2 ^ 64)
    {owner : EntityId} {id : ThreadId} (new : id = ⟨owner, state.nextThreadSeq + 1⟩)
    (lists : ∀ probe, next.threadsOf probe =
      if probe = owner then state.threadsOf owner ++ [id] else state.threadsOf probe)
    (table : ∀ probe, next.threads.contains probe = true ↔
      probe = id ∨ state.threads.contains probe = true)
    (counter : next.nextThreadSeq = state.nextThreadSeq + 1) : next.Registered (started + 1) := by
  have ownerOf : id.owner = owner := congrArg ThreadId.owner new
  have number : id.seq = state.nextThreadSeq + 1 := congrArg ThreadId.seq new
  have earlier {probe : ThreadId} (present : state.threads.contains probe = true) :
      probe.seq < id.seq := number ▸ registered.lt_next few present
  constructor
  case listed =>
    intro probe
    rw [table, lists, registered.listed]
    by_cases same : probe.owner = owner
    · rw [if_pos same, List.mem_append, List.mem_singleton, same, or_comm]
    · rw [if_neg same]
      refine or_iff_right fun latest => same ?_
      rw [latest, ownerOf]
  case owned =>
    intro probe other member
    rw [lists] at member
    by_cases same : probe = owner
    · rw [if_pos same] at member
      rw [same]
      obtain old | latest := List.mem_append.mp member
      · exact registered.owned owner other old
      · rw [List.mem_singleton.mp latest, ownerOf]
    · rw [if_neg same] at member
      exact registered.owned probe other member
  case ascending =>
    intro probe
    rw [lists]
    split
    · rw [List.pairwise_append]
      refine ⟨registered.ascending owner, List.pairwise_singleton _ _, ?_⟩
      intro old member latest single
      rw [List.mem_singleton.mp single]
      exact earlier ((registered.listed old).mpr (registered.owned owner old member ▸ member))
    · exact registered.ascending probe
  case distinct =>
    intro first second firstPresent secondPresent same
    obtain rfl | firstOld := (table first).mp firstPresent
    · obtain rfl | secondOld := (table second).mp secondPresent
      · rfl
      · exact absurd (same ▸ earlier secondOld) (UInt64.lt_irrefl _)
    · obtain rfl | secondOld := (table second).mp secondPresent
      · exact absurd (same ▸ earlier firstOld) (UInt64.lt_irrefl _)
      · exact registered.distinct first second firstOld secondOld same
  case count =>
    rw [counter, UInt64.toNat_add, registered.count]
    exact Nat.mod_eq_of_lt few
  case bound =>
    intro probe present
    rw [counter, ← number]
    obtain rfl | old := (table probe).mp present
    · exact UInt64.le_refl _
    · exact UInt64.le_of_lt (earlier old)

end Registered

/-! ## Edits -/

theorem threadsOf_startThread {state next : State} {owner : EntityId} {behavior : UInt16}
    {caller stackObject : Option EntityId} {params : Vector Int16 4} {id : ThreadId}
    (started : state.startThread owner behavior caller stackObject params = some (id, next))
    (probe : EntityId) :
    next.threadsOf probe =
      if probe = owner then state.threadsOf owner ++ [id] else state.threadsOf probe := by
  obtain ⟨alive, _, rfl⟩ := startThread_eq started
  obtain ⟨entity, found⟩ := Table.contains_iff.mp alive
  have found : state.entities.get? owner = some entity := found
  rw [threadsOf, threadsOf, EntityTable.field_of_get? found]
  refine (EntityTable.field_modify state.entities owner probe _ _ _).trans ?_
  rw [found]
  rfl

theorem threadsOf_removeThread (state : State) (id : ThreadId) (probe : EntityId) :
    (state.removeThread id).threadsOf probe =
      if probe = id.owner then (state.threadsOf id.owner).filter (· ≠ id)
      else state.threadsOf probe := by
  refine (EntityTable.field_modify state.entities id.owner probe _ _ _).trans ?_
  split
  · rw [threadsOf, EntityTable.field]
    cases state.entities.get? id.owner <;> rfl
  · rfl

/-- An entity that has gone lists nothing, and the others list what they listed. -/
theorem threadsOf_despawn {state next : State} {id : EntityId} {trace : List TraceEntry}
    (despawned : state.despawn id = some (trace, next)) (probe : EntityId) :
    next.threadsOf probe = if probe = id then [] else state.threadsOf probe := by
  obtain ⟨gone, _, _, rfl⟩ := despawn_eq despawned
  refine (EntityTable.field_cutLinks _ gone id probe [] fun _ _ _ _ => rfl).trans ?_
  rw [EntityTable.field_erase]
  split
  · rfl
  · exact EntityTable.field_modify_same state.entities id probe [] fun _ => rfl

theorem Registered.removeThread {state : State} {started : Nat}
    (registered : state.Registered started) (id : ThreadId) :
    (state.removeThread id).Registered started := by
  refine registered.shrink (fun thread => decide (thread = id)) (fun owner => ?_)
    (fun thread => ?_) rfl
  · rw [threadsOf_removeThread]
    by_cases here : owner = id.owner
    · have keep : (fun thread : ThreadId => !decide (thread = id)) =
          fun thread => decide (thread ≠ id) := funext fun thread => (decide_not).symm
      rw [if_pos here, here, keep]
    · rw [if_neg here]
      refine (registered.filter_threadsOf fun thread same => ?_).symm
      rw [of_decide_eq_true same]
      exact Ne.symm here
  · show (state.threads.erase id).contains thread = true ↔ _
    rw [Table.contains_erase_iff, decide_eq_false_iff_not, and_comm]

/-- An entity goes with all threads that belong to it. -/
theorem Registered.get?_despawn {state next : State} {started : Nat} {id : EntityId}
    {trace : List TraceEntry} (registered : state.Registered started)
    (despawned : state.despawn id = some (trace, next)) (thread : ThreadId) :
    next.threads.get? thread = if thread.owner = id then none else state.threads.get? thread := by
  obtain ⟨gone, found, _, rfl⟩ := despawn_eq despawned
  have listed : state.threadsOf id = gone.threads := EntityTable.field_of_get? found _ _
  refine (get?_eraseThreads state.threads gone.threads thread).trans ?_
  by_cases here : thread.owner = id
  · rw [if_pos here, ← listed]
    by_cases member : thread ∈ state.threadsOf id
    · exact if_pos member
    · rw [if_neg member]
      refine Table.get?_of_not_contains fun present => member ?_
      rw [← here]
      exact (registered.listed thread).mp present
  · rw [if_neg here, if_neg]
    exact fun member => here (registered.owned id thread (listed ▸ member))

theorem Registered.despawn {state next : State} {started : Nat} {id : EntityId}
    {trace : List TraceEntry} (registered : state.Registered started)
    (despawned : state.despawn id = some (trace, next)) : next.Registered started := by
  have threads := registered.get?_despawn despawned
  have lists := threadsOf_despawn despawned
  obtain ⟨gone, _, _, rfl⟩ := despawn_eq despawned
  refine registered.shrink (fun thread => decide (thread.owner = id)) (fun owner => ?_)
    (fun thread => ?_) rfl
  · rw [lists]
    by_cases here : owner = id
    · rw [if_pos here]
      refine (List.filter_eq_nil_iff.mpr fun thread member => ?_).symm
      rw [decide_eq_true ((registered.owned owner thread member).trans here)]
      exact Bool.false_ne_true
    · rw [if_neg here]
      refine (registered.filter_threadsOf fun thread same => ?_).symm
      rw [of_decide_eq_true same]
      exact Ne.symm here
  · rw [Table.contains, threads, decide_eq_false_iff_not]
    by_cases here : thread.owner = id
    · simp [here]
    · simp [here, Table.contains]

/-- **Every edit keeps the table and the lists in agreement**, as long as the counters of entities
and of threads have room. -/
theorem Edit.registered {before after : State} {deeds : List Deed} (edit : Edit before deeds after)
    {made started : Nat} (numbered : before.entities.Numbered made)
    (registered : before.Registered started)
    (few : made + (entitiesMade deeds).length < 2 ^ 32)
    (room : started + (threadsStarted deeds).length < 2 ^ 64) :
    after.Registered (started + (threadsStarted deeds).length) := by
  cases edit with
  | allocate kind name template =>
    exact registered.congr
      (fun owner => EntityTable.field_allocate (numbered.fresh few) kind name template owner rfl)
      (fun _ => rfl) rfl
  | startThread begun =>
    have lists := threadsOf_startThread begun
    obtain ⟨_, new, rfl⟩ := startThread_eq begun
    exact registered.start room new lists (fun _ => Table.contains_insert_iff) rfl
  | setThread id =>
    exact registered.congr (fun _ => rfl) (Table.contains_modify _ id · _) rfl
  | removeThread id => exact registered.removeThread id
  | reshape id shape =>
    refine registered.modify rfl (fun entity => ?_) rfl rfl
    obtain ⟨position, attributes, animation, same⟩ := shape entity
    rw [same]
  | relate id alive low high => exact registered.modify rfl (fun _ => rfl) rfl rfl
  | bind unbound found avatar free => exact registered.modify rfl (fun _ => rfl) rfl rfl
  | @grab carrier object holder held apart found free foundHeld loose =>
    have carrying : (before.modifyEntity carrier fun entity =>
        { entity with carrying := some object }).Registered started :=
      registered.modify rfl (fun _ => rfl) rfl rfl
    exact carrying.modify rfl (fun _ => rfl) rfl rfl
  | @drop carrier object holder position found carries =>
    have freed : (before.modifyEntity object fun entity =>
        { entity with carriedBy := none, position }).Registered started :=
      registered.modify rfl (fun _ => rfl) rfl rfl
    exact freed.modify rfl (fun _ => rfl) rfl rfl
  | playSound sound volume looping alive =>
    rw [threadsStarted_heard]
    exact registered.modify rfl (fun _ => rfl) rfl rfl
  | stopSounds owner =>
    rw [threadsStarted_heard]
    exact registered.modify rfl (fun _ => rfl) rfl rfl
  | despawn despawned =>
    rw [threadsStarted_heard]
    exact registered.despawn despawned
  | tick tick => exact registered.congr (fun _ => rfl) (fun _ => rfl) rfl

/-- Wherever edits lead from the empty state, the table and the lists agree, as long as the counters
of entities and of threads have not run over. -/
theorem Edits.registered {state : State} {deeds : List Deed}
    (edits : Edits State.empty deeds state) (few : (entitiesMade deeds).length < 2 ^ 32)
    (room : (threadsStarted deeds).length < 2 ^ 64) :
    state.Registered (threadsStarted deeds).length := by
  induction edits with
  | none => exact registered_empty
  | more edits edit inductionHypothesis =>
    rw [entitiesMade_append, List.length_append] at few
    rw [threadsStarted_append, List.length_append] at room ⊢
    have earlierFew := Nat.lt_of_le_of_lt (Nat.le_add_right _ _) few
    have earlierRoom := Nat.lt_of_le_of_lt (Nat.le_add_right _ _) room
    exact edit.registered (edits.numbered earlierFew) (inductionHypothesis earlierFew earlierRoom)
      few room

end Lockstep.State
