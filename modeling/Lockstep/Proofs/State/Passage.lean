import Lockstep.Proofs.Path
import Lockstep.Proofs.State.Avatars
import Lockstep.Proofs.State.Lasting
import Lockstep.Proofs.Table.Ledger
import Lockstep.Proofs.Thread.References

/-!
# From state to state

A machine goes from one state to the next in small steps (`State.Passes`). In a step no more than
one identity is given out to an entity and no more than one number to a thread, always the next one.
And what a state refers to, the one before referred to, or it is alive.

A route leads through many states (`State.Route`). All who come into the table of entities or into
that of threads on the way are in a ledger (`State.Route.ledger`), and whatever is referred to has
been alive (`State.Route.known`).
-/

set_option autoImplicit false

namespace Lockstep

/-! ## Numberings -/

/-- Entities are numbered, and stay who they are. -/
def entityNumbering : Numbering EntityId Entity where
  size := 2 ^ 32
  number id := id.number.toNat
  lasts := Entity.Lasts
  refl := .refl
  trans := .trans

/-- Threads are numbered whatever they belong to, and may change. -/
def threadNumbering : Numbering ThreadId Thread where
  size := 2 ^ 64
  number id := id.seq.toNat
  lasts _ _ := True
  refl _ := trivial
  trans _ _ := trivial

namespace State

/-- The table of entities comes after another one. -/
def EntitiesFollow (before after : State) : Prop :=
  entityNumbering.Follows before.entities.entities before.entities.nextId.toNat
    after.entities.entities after.entities.nextId.toNat

/-- The table of threads comes after another one. -/
def ThreadsFollow (before after : State) : Prop :=
  threadNumbering.Follows before.threads before.nextThreadSeq.toNat after.threads
    after.nextThreadSeq.toNat

/-- A frame or the table of avatars refers to an entity. -/
def Refers (state : State) (id : EntityId) : Prop :=
  state.threads.Refers id ∨ ∃ client, state.avatarOf? client = some id

/-- One step of a machine. -/
structure Passes (before after : State) : Prop where
  changed : ∃ threads events, before.Changed 1 threads events after
  entities : before.EntitiesFollow after
  threads : before.ThreadsFollow after
  refers : ∀ id, after.Refers id →
    before.Refers id ∨ before.entities.contains id = true ∨ after.entities.contains id = true

/-! ## Nobody comes -/

section

variable {before after : State}

theorem entitiesFollow_of_lasts (lasts : before.entities.Lasts after.entities) :
    before.EntitiesFollow after := by
  rw [EntitiesFollow, lasts.counter]
  exact .nobody lasts.known

/-- No thread is started, and none is there that was not there. -/
structure NoNewThread (before after : State) : Prop where
  counter : after.nextThreadSeq = before.nextThreadSeq
  known : ∀ id, after.threads.contains id = true → before.threads.contains id = true

theorem NoNewThread.follow (none : before.NoNewThread after) : before.ThreadsFollow after := by
  rw [ThreadsFollow, none.counter]
  refine .nobody fun id thread found => ?_
  obtain ⟨old, held⟩ := Table.contains_iff.mp (none.known id (Table.contains_of_get? found))
  exact ⟨old, held, trivial⟩

theorem Edit.noNewThread {deeds : List Deed} (edit : Edit before deeds after)
    (nothing : threadsStarted deeds = []) : before.NoNewThread after := by
  cases edit with
  | startThread started => exact absurd nothing (List.cons_ne_nil _ _)
  | setThread thread =>
    exact ⟨rfl, fun id present => (Table.contains_modify _ thread id _).symm.trans present⟩
  | removeThread id => exact ⟨rfl, fun _ present => (Table.contains_erase_iff.mp present).2⟩
  | despawn despawned =>
    have shrinks := shrinks_despawn despawned
    obtain ⟨gone, _, _, rfl⟩ := despawn_eq despawned
    refine ⟨rfl, fun id present => ?_⟩
    obtain ⟨thread, found⟩ := Table.contains_iff.mp present
    exact Table.contains_of_get? (shrinks id thread found)
  | _ => exact ⟨rfl, fun _ present => present⟩

theorem Edits.noNewThread {deeds : List Deed} (edits : Edits before deeds after)
    (nothing : threadsStarted deeds = []) : before.NoNewThread after := by
  induction edits with
  | none => exact ⟨rfl, fun _ present => present⟩
  | more _ edit inductionHypothesis =>
    rw [threadsStarted_append, List.append_eq_nil_iff] at nothing
    have start := inductionHypothesis nothing.1
    have rest := edit.noNewThread nothing.2
    exact ⟨rest.counter.trans start.counter, fun id present =>
      start.known id (rest.known id present)⟩

/-- A step that gives nothing out. -/
theorem Changed.passes {events : List SoundEvent} (changed : before.Changed 0 0 events after)
    (frames : ∀ id, after.threads.Refers id →
      before.threads.Refers id ∨ before.entities.contains id = true) : before.Passes after := by
  have lasts := changed.lasts
  have few := changed.mono (Nat.zero_le 1) (Nat.le_refl 0)
  obtain ⟨deeds, edits, _, made, started, bound⟩ := changed
  constructor
  case changed => exact ⟨0, events, few⟩
  case entities => exact entitiesFollow_of_lasts lasts
  case threads =>
    exact (edits.noNewThread (List.eq_nil_of_length_eq_zero (Nat.le_zero.mp started))).follow
  case refers =>
    rintro id (inFrame | ⟨client, avatar⟩)
    · obtain before | alive := frames id inFrame
      · exact .inl (.inl before)
      · exact .inr (.inl alive)
    · have unbound : client ∉ clientsBound deeds := by
        rw [List.eq_nil_of_length_eq_zero (Nat.le_zero.mp (Nat.le_trans bound made))]
        exact List.not_mem_nil
      exact .inl (.inr ⟨client, edits.avatars_shrink unbound avatar⟩)

theorem passes_refl (state : State) : state.Passes state :=
  (Changed.refl state).passes fun _ => .inl

end

/-! ## Somebody comes -/

/-- An entity is made, and is still alive afterwards. -/
theorem entitiesFollow_of_allocate {before after : State} {kind : EntityKind} {name : String}
    {template : EntityTemplate}
    (lasts : (before.entities.allocate kind name template).2.Lasts after.entities)
    (present : after.entities.contains ⟨before.entities.nextId + 1⟩ = true) :
    before.EntitiesFollow after := by
  let made : EntityId := ⟨before.entities.nextId + 1⟩
  have counter : after.entities.nextId.toNat = entityNumbering.number made :=
    congrArg UInt32.toNat lasts.counter
  rw [EntitiesFollow, counter]
  refine .somebody made (UInt32.toNat_add _ _) present fun other entity apart found => ?_
  obtain ⟨old, held, lasted⟩ := lasts.known other entity found
  rw [EntityTable.get?_allocate, if_neg apart] at held
  exact ⟨old, held, lasted⟩

/-- A thread is started. -/
theorem threadsFollow_of_insert {before after : State} {owner : EntityId} {thread : Thread}
    (threads : after.threads =
      before.threads.insert ⟨owner, before.nextThreadSeq + 1⟩ thread)
    (counter : after.nextThreadSeq = before.nextThreadSeq + 1) : before.ThreadsFollow after := by
  let started : ThreadId := ⟨owner, before.nextThreadSeq + 1⟩
  have number : after.nextThreadSeq.toNat = threadNumbering.number started :=
    congrArg UInt64.toNat counter
  rw [ThreadsFollow, number, threads]
  refine .somebody started (UInt64.toNat_add _ _) ?_ fun other held apart found => ?_
  · exact Table.contains_insert_iff.mpr (.inl rfl)
  · rw [Table.get?_insert_of_ne _ apart] at found
    exact ⟨held, found, trivial⟩

/-- A thread is started for somebody who is referred to. -/
theorem startThread_passes {before after : State} {owner : EntityId} {behavior : UInt16}
    {caller stackObject : Option EntityId} {params : Vector Int16 4} {id : ThreadId}
    (started : before.startThread owner behavior caller stackObject params = some (id, after))
    (knowsCaller : ∀ id, caller = some id → before.Refers id)
    (knowsObject : ∀ id, stackObject = some id → before.Refers id) : before.Passes after := by
  have changed := Changed.startThread started
  have lasts := changed.lasts
  obtain ⟨_, rfl, rfl⟩ := startThread_eq started
  constructor
  case changed => exact ⟨1, [], changed.mono (Nat.zero_le 1) (Nat.le_refl 1)⟩
  case entities => exact entitiesFollow_of_lasts lasts
  case threads => exact threadsFollow_of_insert rfl rfl
  case refers =>
    rintro id (inFrame | avatar)
    · obtain ⟨frame, member, refers⟩ | old := ThreadTable.refers_insert inFrame
      · obtain rfl := List.mem_singleton.mp member
        exact .inl (refers.elim (knowsObject id) (knowsCaller id))
      · exact .inl (.inl old)
    · exact .inl (.inr avatar)

/-- The first thread of a new entity, if it has one, refers to nobody. -/
theorem spawn_threads (state : State) (kind : EntityKind) (name : String)
    (template : EntityTemplate) :
    state.ThreadsFollow (state.spawn kind name template).2 ∧
      ∀ id, (state.spawn kind name template).2.threads.Refers id → state.threads.Refers id := by
  have same (entities : EntityTable) : state.ThreadsFollow { state with entities } :=
    NoNewThread.follow ⟨rfl, fun _ present => present⟩
  obtain ⟨_, idle⟩ | ⟨_, _, _, _, started, begun⟩ := state.spawn_cases kind name template
  · rw [idle]
    exact ⟨same _, fun _ refers => refers⟩
  · rw [begun]
    obtain ⟨_, rfl, rfl⟩ := startThread_eq started
    refine ⟨threadsFollow_of_insert rfl rfl, fun id inFrame => ?_⟩
    obtain ⟨frame, member, refers⟩ | old := ThreadTable.refers_insert inFrame
    · obtain rfl := List.mem_singleton.mp member
      have nobody : none ≠ some id := (Option.some_ne_none id).symm
      exact refers.elim (absurd · nobody) (absurd · nobody)
    · exact old

/-- An entity is made, which may become somebody's avatar. -/
theorem spawn_passes {before made after : State} {kind : EntityKind} {name : String}
    {template : EntityTemplate} {id : EntityId} {threads : Nat} {events : List SoundEvent}
    (makes : before.spawn kind name template = (id, made))
    (changed : before.Changed 1 threads events after) (lasts : made.entities.Lasts after.entities)
    (present : after.entities.contains id = true) (table : after.threads = made.threads)
    (counter : after.nextThreadSeq = made.nextThreadSeq)
    (avatars : ∀ client other, after.avatarOf? client = some other →
      before.avatarOf? client = some other ∨ other = id) : before.Passes after := by
  obtain ⟨deeds, rest, _, nothing, _⟩ := before.spawn_rest kind name template
  obtain ⟨follow, frames⟩ := before.spawn_threads kind name template
  have first := before.fst_spawn kind name template
  rw [makes] at rest follow frames first
  constructor
  case changed => exact ⟨threads, events, changed⟩
  case entities =>
    refine entitiesFollow_of_allocate ((rest.lasts nothing).trans lasts) ?_
    rw [← first]
    exact present
  case threads =>
    rw [ThreadsFollow, table, counter]
    exact follow
  case refers =>
    rintro other (inFrame | ⟨client, avatar⟩)
    · rw [table] at inFrame
      exact .inl (.inl (frames other inFrame))
    · obtain old | rfl := avatars client other avatar
      · exact .inl (.inr ⟨client, old⟩)
      · exact .inr (.inr present)

/-! ## Routes -/

/-- From one state to another one, through some states. If there are any, the other one is the last
of them. -/
inductive Route : State → List State → State → Prop where
  | here (state : State) : Route state [] state
  | next {first middle last : State} {passed : List State} :
      first.Passes middle → Route middle passed last → Route first (middle :: passed) last

namespace Route

variable {first middle last : State} {passed earlier later : List State}

theorem one (passes : first.Passes last) : Route first [last] last := .next passes (.here last)

theorem trans (start : Route first earlier middle) (rest : Route middle later last) :
    Route first (earlier ++ later) last := by
  induction start with
  | here => exact rest
  | next passes _ inductionHypothesis => exact .next passes (inductionHypothesis rest)

theorem passes_of_one (route : Route first [last] middle) : first.Passes last := by
  cases route with
  | next passes _ => exact passes

/-- A route leads to each state on the way. -/
theorem upTo (route : Route first (earlier ++ middle :: later) last) :
    Route first (earlier ++ [middle]) middle := by
  induction earlier generalizing first with
  | nil =>
    cases route with
    | next passes rest => exact .one passes
  | cons state earlier inductionHypothesis =>
    cases route with
    | next passes rest => exact .next passes (inductionHypothesis rest)

/-- **All who come on the way are in a ledger**, as long as there are numbers left. -/
theorem ledger {κ ν : Type} [Ord κ] [Std.LawfulEqOrd κ] [DecidableEq κ] (numbering : Numbering κ ν)
    (table : State → Table κ ν) (count : State → Nat)
    (follows : ∀ before after : State, before.Passes after →
      numbering.Follows (table before) (count before) (table after) (count after))
    (route : Route first passed last) {log : List (κ × ν)}
    (ledger : numbering.Ledger log (table first) (count first))
    (room : (log ++ Table.arrivals (table first) (passed.map table)).length < numbering.size) :
    numbering.Ledger (log ++ Table.arrivals (table first) (passed.map table)) (table last)
      (count last) := by
  induction route generalizing log with
  | here =>
    rw [List.map_nil, Table.arrivals, List.append_nil]
    exact ledger
  | next passes _ inductionHypothesis =>
    rw [List.map_cons, Table.arrivals, ← List.append_assoc] at room ⊢
    refine inductionHypothesis (ledger.follow (follows _ _ passes) ?_) room
    rw [List.length_append] at room
    exact Nat.lt_of_le_of_lt (Nat.le_add_right _ _) room

/-- What was known at the start and all who were alive on the way are all that is referred to. -/
theorem known (known : EntityId → Prop) (route : Route first passed last)
    (start : ∀ id, first.Refers id → known id)
    (alive : ∀ state ∈ first :: passed, ∀ id, state.entities.contains id = true → known id) :
    ∀ id, last.Refers id → known id := by
  induction route with
  | here => exact start
  | next passes _ inductionHypothesis =>
    obtain ⟨atFirst, later⟩ := List.forall_mem_cons.mp alive
    refine inductionHypothesis (fun id refers => ?_) later
    obtain before | left | come := passes.refers id refers
    · exact start id before
    · exact atFirst id left
    · exact later _ List.mem_cons_self id come

end Route
end State

/-- A path is a route when each of its steps is one. -/
theorem Path.route {step : State → State → Prop} {first last : State} {passed : List State}
    (path : Path step first passed last)
    (passes : ∀ before after, step before after → before.Passes after) :
    State.Route first passed last := by
  induction path with
  | here state => exact .here state
  | next taken _ inductionHypothesis => exact .next (passes _ _ taken) inductionHypothesis

end Lockstep
