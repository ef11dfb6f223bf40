import Lockstep.Proofs.Entity.Links
import Lockstep.Proofs.Thread.Listed
import Lockstep.Tick.Deltas

/-!
# States without a thread

`State.without` takes a thread out of the table of threads and out of the list of every entity.
Whatever is done to a state and is not about that thread can be done before or after the thread is
taken out, with the same outcome: that is said here of entities that are made or go
(`State.spawn_without`, `State.despawn_without`) and of other threads that are started or removed.
How avatars look does not depend on lists of threads.

Where lists are sound, to take a thread out is to remove it (`State.ListsSound.removeThread_eq`),
and a thread that is not in the table is nowhere to be found (`State.ListsSound.without_eq_self`).
-/

set_option autoImplicit false

namespace Lockstep

/-! ## Entities -/

/-- An entity without a thread in its list. -/
def Entity.unlist (thread : ThreadId) (entity : Entity) : Entity :=
  { entity with threads := entity.threads.filter (· ≠ thread) }

theorem Entity.unlist_eq_self {thread : ThreadId} {entity : Entity}
    (unlisted : thread ∉ entity.threads) : entity.unlist thread = entity := by
  have same : entity.threads.filter (· ≠ thread) = entity.threads := by
    refine List.filter_eq_self.mpr fun other member => decide_eq_true ?_
    rintro rfl
    exact unlisted member
  rw [unlist, same]

namespace EntityTable

/-- Tables with the same entities under the same identities, and with the same counter. -/
theorem ext_get? {first second : EntityTable} (same : ∀ id, first.get? id = second.get? id)
    (counter : first.nextId = second.nextId) : first = second := by
  obtain ⟨entities, nextId⟩ := first
  obtain rfl : nextId = second.nextId := counter
  obtain rfl : entities = second.entities := Table.ext_get? same
  rfl

/-- The entities, without a thread in any list. -/
def unlist (thread : ThreadId) (table : EntityTable) : EntityTable :=
  { table with entities := table.entities.mapValues fun _ entity => entity.unlist thread }

@[simp] theorem get?_unlist (table : EntityTable) (thread : ThreadId) (id : EntityId) :
    (table.unlist thread).get? id = (table.get? id).map (Entity.unlist thread) :=
  Table.get?_mapValues table.entities _ id

@[simp] theorem contains_unlist (table : EntityTable) (thread : ThreadId) (id : EntityId) :
    (table.unlist thread).contains id = table.contains id :=
  Table.contains_mapValues table.entities _ id

/-- A change that lets lists be cut before or after it. -/
theorem modify_unlist (table : EntityTable) (thread : ThreadId) (id : EntityId)
    (change : Entity → Entity)
    (commutes : ∀ entity, change (entity.unlist thread) = (change entity).unlist thread) :
    (table.unlist thread).modify id change = (table.modify id change).unlist thread := by
  refine ext_get? (fun probe => ?_) rfl
  have changed (entities : EntityTable) : (entities.modify id change).get? probe =
      if probe = id then (entities.get? probe).map change else entities.get? probe :=
    Table.get?_modify entities.entities id probe change
  rw [get?_unlist, changed, changed, get?_unlist]
  split
  · rw [Option.map_map, Option.map_map]
    exact congrArg (Option.map · _) (funext commutes)
  · rfl

theorem erase_unlist (table : EntityTable) (thread : ThreadId) (id : EntityId) :
    (table.unlist thread).erase id = (table.erase id).unlist thread := by
  refine ext_get? (fun probe => ?_) rfl
  have erased (entities : EntityTable) : (entities.erase id).get? probe =
      if probe = id then none else entities.get? probe :=
    Table.get?_erase entities.entities id probe
  rw [get?_unlist, erased, erased, get?_unlist]
  split <;> rfl

/-- A new entity lists no threads. -/
theorem allocate_unlist (table : EntityTable) (thread : ThreadId) (kind : EntityKind)
    (name : String) (template : EntityTemplate) :
    (table.unlist thread).allocate kind name template =
      ((table.allocate kind name template).1,
        (table.allocate kind name template).2.unlist thread) := by
  refine Prod.ext rfl (ext_get? (fun probe => ?_) rfl)
  rw [get?_unlist, get?_allocate, get?_allocate, get?_unlist, apply_ite (Option.map _)]
  rfl

theorem cutLinks_unlist (table : EntityTable) (thread : ThreadId) (gone : Entity) (id : EntityId) :
    State.cutLinks (table.unlist thread) (gone.unlist thread) id =
      (State.cutLinks table gone id).unlist thread := by
  refine ext_get? (fun probe => ?_) ?_
  · rw [get?_unlist, get?_cutLinks, get?_cutLinks, get?_unlist, Option.map_map, Option.map_map]
    rfl
  · exact (State.nextId_cutLinks _ _ id).trans (State.nextId_cutLinks table gone id).symm

theorem releaseSounds_unlist (table : EntityTable) (thread : ThreadId) (sounds : SoundIndex)
    (owner : EntityId) :
    releaseSounds (table.unlist thread) sounds owner =
      ((releaseSounds table sounds owner).1, (releaseSounds table sounds owner).2.1.unlist thread,
        (releaseSounds table sounds owner).2.2) := by
  have entities := table.modify_unlist thread owner
    (fun entity => { entity with sounds := [] }) fun _ => rfl
  rw [releaseSounds, releaseSounds, get?_unlist, entities]
  cases table.get? owner <;> rfl

/-- How avatars look has nothing to do with threads. -/
theorem snapshots_unlist (table : EntityTable) (thread : ThreadId) :
    (table.unlist thread).snapshots = table.snapshots := by
  have same : (table.unlist thread).list = table.list.map (Entity.unlist thread) := by
    simp [list, unlist, Table.values, Table.mapValues]
  rw [snapshots, same, List.filter_map, List.map_map]
  rfl

end EntityTable

/-! ## States -/

namespace State

/-- A state without a thread, which is taken out of the table and out of all lists. -/
def without (thread : ThreadId) (state : State) : State :=
  { state with
    threads := state.threads.erase thread
    entities := state.entities.unlist thread }

variable {thread : ThreadId}

theorem removeThread_without (state : State) (thread id : ThreadId) :
    (state.without thread).removeThread id = (state.removeThread id).without thread := by
  have entities := state.entities.modify_unlist thread id.owner (Entity.unlist id)
    fun entity => by
      rw [Entity.unlist, Entity.unlist, Entity.unlist, Entity.unlist, List.filter_comm]
  exact congrArg₂ (fun threads entities => { state with threads, entities })
    (Table.erase_comm state.threads thread id) entities

theorem eraseThreads_without (threads : ThreadTable) (ids : List ThreadId) (thread : ThreadId) :
    eraseThreads (threads.erase thread) (ids.filter (· ≠ thread)) =
      (eraseThreads threads ids).erase thread := by
  refine Table.ext_get? fun probe => ?_
  rw [get?_eraseThreads, Table.get?_erase, Table.get?_erase, get?_eraseThreads]
  by_cases same : probe = thread <;> simp [same]

/-- An entity goes. -/
theorem despawn_without (state : State) (thread : ThreadId) (id : EntityId) :
    (state.without thread).despawn id =
      (state.despawn id).map fun (trace, next) => (trace, next.without thread) := by
  rw [despawn, despawn, without, EntityTable.get?_unlist]
  cases state.entities.get? id with
  | none => rfl
  | some gone =>
    have threads : eraseThreads (state.threads.erase thread) (gone.unlist thread).threads = _ :=
      eraseThreads_without state.threads gone.threads thread
    dsimp only [Option.map_some]
    rw [EntityTable.releaseSounds_unlist]
    dsimp only
    rw [EntityTable.erase_unlist, EntityTable.cutLinks_unlist, threads]
    rfl

/-- Another thread is started. -/
theorem startThread_without (state : State) (fresh : thread.seq ≠ state.nextThreadSeq + 1)
    (owner : EntityId) (behavior : UInt16) (caller stackObject : Option EntityId)
    (params : Vector Int16 4) :
    (state.without thread).startThread owner behavior caller stackObject params =
      (state.startThread owner behavior caller stackObject params).map fun (id, next) =>
        (id, next.without thread) := by
  rw [startThread, startThread]
  by_cases alive : state.entities.contains owner = true
  · have still : (state.without thread).entities.contains owner = true :=
      (state.entities.contains_unlist thread owner).trans alive
    let id : ThreadId := ⟨owner, state.nextThreadSeq + 1⟩
    have apart : id ≠ thread := fun same => fresh (congrArg ThreadId.seq same).symm
    have alone : [id].filter (· ≠ thread) = [id] := List.filter_cons_of_pos (decide_eq_true apart)
    have listed := state.entities.modify_unlist thread owner
      (fun entity => { entity with threads := entity.threads ++ [id] }) fun entity => by
        rw [Entity.unlist, Entity.unlist, List.filter_append, alone]
    have entered := state.threads.insert_erase apart
      (Thread.new id (StackFrame.new behavior caller stackObject params))
    rw [if_pos alive, if_pos still]
    exact congrArg₂ (fun threads entities =>
      some (id, { state with threads, entities, nextThreadSeq := id.seq })) entered listed
  · have neither : ¬ (state.without thread).entities.contains owner = true := fun here =>
      alive ((state.entities.contains_unlist thread owner).symm.trans here)
    rw [if_neg alive, if_neg neither]
    rfl

/-- An entity is made, with a first thread that is another one. -/
theorem spawn_without (state : State) (fresh : thread.seq ≠ state.nextThreadSeq + 1)
    (kind : EntityKind) (name : String) (template : EntityTemplate) :
    (state.without thread).spawn kind name template =
      ((state.spawn kind name template).1, (state.spawn kind name template).2.without thread) := by
  let made : State := { state with entities := (state.entities.allocate kind name template).2 }
  have allocated := state.entities.allocate_unlist thread kind name template
  rw [spawn, spawn, without]
  dsimp only
  rw [allocated]
  cases template.behavior with
  | none => rfl
  | some behavior =>
    have started := startThread_without made fresh (state.entities.allocate kind name template).1
      behavior none none (Vector.replicate 4 0)
    rw [without] at started
    dsimp only at started ⊢
    rw [started]
    cases made.startThread (state.entities.allocate kind name template).1 behavior none none
      (Vector.replicate 4 0) <;> rfl

/-! ## Removing a thread -/

namespace ListsSound

variable {state : State}

/-- Only its owner lists a thread, so to remove a thread is to take it out everywhere. -/
theorem removeThread_eq (sound : state.ListsSound) (id : ThreadId) :
    state.removeThread id = state.without id := by
  refine congrArg (fun entities => { state with threads := state.threads.erase id, entities }) ?_
  refine EntityTable.ext_get? (fun probe => ?_) rfl
  refine (Table.get?_modify ..).trans ?_
  rw [EntityTable.get?_unlist]
  by_cases own : probe = id.owner
  · exact if_pos own
  · rw [if_neg own]
    cases found : state.entities.get? probe with
    | none => exact found
    | some entity =>
      have listed : state.threadsOf probe = entity.threads := EntityTable.field_of_get? found _ _
      rw [Option.map_some, Entity.unlist_eq_self fun member =>
        own (sound.owned probe id (listed ▸ member)).symm]
      exact found

/-- A thread that is not in the table is in no list either. -/
theorem without_eq_self (sound : state.ListsSound) {id : ThreadId}
    (absent : state.threads.get? id = none) : state.without id = state := by
  have entities : state.entities.unlist id = state.entities := by
    refine EntityTable.ext_get? (fun probe => ?_) rfl
    rw [EntityTable.get?_unlist]
    cases found : state.entities.get? probe with
    | none => rfl
    | some entity =>
      have listed : state.threadsOf probe = entity.threads := EntityTable.field_of_get? found _ _
      rw [Option.map_some, Entity.unlist_eq_self fun member => ?_]
      obtain ⟨thread, present⟩ := Table.contains_iff.mp (sound.known probe id (listed ▸ member))
      exact absurd (absent.symm.trans present) (Option.some_ne_none thread).symm
  rw [without, Table.erase_eq_self absent, entities]

end ListsSound
end State
end Lockstep
