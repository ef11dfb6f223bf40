import Lockstep.Machine

/-!
# Edits

Whatever a machine does to its state, it does in small edits (`State.Edit`): an entity is made, a
thread is started, put somewhere or removed, something about an entity changes, a sound is played
or stopped, an entity goes. An edit lists its deeds: the identities that it gives out, the clients
that get an avatar, and what it tells the player of sounds. `State.Edits` are edits one after the
other, with all their deeds.

A property of states that every edit keeps is kept by everything that a machine does. So an
invariant is proved with one case for every kind of edit, and no proof of an invariant looks at a
command, an instruction or a turn.
-/

set_option autoImplicit false

namespace Lockstep

/-- What an edit does that can be told apart from outside of the state. -/
inductive Deed where
  /-- An identity was given out to an entity. -/
  | made (id : EntityId)
  /-- An identity was given out to a thread. -/
  | started (id : ThreadId)
  /-- A client got an avatar. -/
  | bound (client : ClientId)
  /-- The player of sounds was told something. -/
  | heard (event : SoundEvent)
  deriving DecidableEq

namespace Deed

/-- The entity that was made, if the deed is that. -/
def made? : Deed → Option EntityId
  | .made id => some id
  | _ => none

/-- The thread that was started, if the deed is that. -/
def started? : Deed → Option ThreadId
  | .started id => some id
  | _ => none

/-- The client that got an avatar, if the deed is that. -/
def bound? : Deed → Option ClientId
  | .bound client => some client
  | _ => none

/-- What the player of sounds was told, if the deed is that. -/
def heard? : Deed → Option SoundEvent
  | .heard event => some event
  | _ => none

end Deed

/-- The entities that were made, first one first. -/
def entitiesMade (deeds : List Deed) : List EntityId := deeds.filterMap Deed.made?

/-- The threads that were started, first one first. -/
def threadsStarted (deeds : List Deed) : List ThreadId := deeds.filterMap Deed.started?

/-- The clients that got an avatar, first one first. -/
def clientsBound (deeds : List Deed) : List ClientId := deeds.filterMap Deed.bound?

/-- What the player of sounds was told, first thing first. -/
def soundsHeard (deeds : List Deed) : List SoundEvent := deeds.filterMap Deed.heard?

theorem entitiesMade_append (first second : List Deed) :
    entitiesMade (first ++ second) = entitiesMade first ++ entitiesMade second :=
  List.filterMap_append

theorem threadsStarted_append (first second : List Deed) :
    threadsStarted (first ++ second) = threadsStarted first ++ threadsStarted second :=
  List.filterMap_append

theorem clientsBound_append (first second : List Deed) :
    clientsBound (first ++ second) = clientsBound first ++ clientsBound second :=
  List.filterMap_append

theorem soundsHeard_append (first second : List Deed) :
    soundsHeard (first ++ second) = soundsHeard first ++ soundsHeard second :=
  List.filterMap_append

theorem entitiesMade_heard (events : List SoundEvent) :
    entitiesMade (events.map Deed.heard) = [] := by
  rw [entitiesMade, List.filterMap_map]
  exact List.filterMap_eq_nil_iff.mpr fun _ _ => rfl

theorem threadsStarted_heard (events : List SoundEvent) :
    threadsStarted (events.map Deed.heard) = [] := by
  rw [threadsStarted, List.filterMap_map]
  exact List.filterMap_eq_nil_iff.mpr fun _ _ => rfl

theorem clientsBound_heard (events : List SoundEvent) :
    clientsBound (events.map Deed.heard) = [] := by
  rw [clientsBound, List.filterMap_map]
  exact List.filterMap_eq_nil_iff.mpr fun _ _ => rfl

theorem soundsHeard_heard (events : List SoundEvent) :
    soundsHeard (events.map Deed.heard) = events := by
  rw [soundsHeard, List.filterMap_map]
  exact List.filterMap_some

namespace State

/-- A state with one entity changed, if it is alive. -/
def modifyEntity (state : State) (id : EntityId) (change : Entity → Entity) : State :=
  { state with entities := state.entities.modify id change }

/-- A state in which an entity has opened a channel for a sound. -/
def playSound (state : State) (owner : EntityId) (sound : UInt32) (volume : UInt8)
    (looping : Bool) : State :=
  let (channel, index) := state.sounds.allocate
  { state.modifyEntity owner (fun entity =>
      { entity with sounds := entity.sounds ++ [⟨channel, sound, volume, looping, owner⟩] }) with
    sounds := index.insert owner channel }

/-- A state in which an entity has no sounds any more. -/
def stopSounds (state : State) (owner : EntityId) : State :=
  let (_, entities, sounds) := releaseSounds state.entities state.sounds owner
  { state with entities, sounds }

/-- The channels that are stopped when an entity's sounds are, in ascending order. -/
def stopped (state : State) (owner : EntityId) : List ChannelId :=
  (releaseSounds state.entities state.sounds owner).1

/-- A started thread belongs to a live entity, has the next number, and is at the first
instruction of its behavior. -/
theorem startThread_eq {state next : State} {owner : EntityId} {behavior : UInt16}
    {caller stackObject : Option EntityId} {params : Vector Int16 4} {id : ThreadId}
    (started : state.startThread owner behavior caller stackObject params = some (id, next)) :
    state.entities.contains owner = true ∧ id = ⟨owner, state.nextThreadSeq + 1⟩ ∧
      next =
        { state.modifyEntity owner (fun entity =>
            { entity with threads := entity.threads ++ [id] }) with
          threads := state.threads.insert id
            (Thread.new id (StackFrame.new behavior caller stackObject params))
          nextThreadSeq := state.nextThreadSeq + 1 } := by
  rw [startThread] at started
  by_cases alive : state.entities.contains owner = true
  · rw [if_pos alive] at started
    obtain ⟨rfl, rfl⟩ := Prod.mk.inj (Option.some.inj started)
    exact ⟨alive, rfl, rfl⟩
  · rw [if_neg alive] at started
    exact absurd started (Option.some_ne_none _).symm

theorem startThread_of_alive {state : State} {owner : EntityId}
    (alive : state.entities.contains owner = true) (behavior : UInt16)
    (caller stackObject : Option EntityId) (params : Vector Int16 4) :
    ∃ id next, state.startThread owner behavior caller stackObject params = some (id, next) := by
  rw [startThread, if_pos alive]
  exact ⟨_, _, rfl⟩

/-- The changes that a machine makes to a state, each with its deeds. -/
inductive Edit : State → List Deed → State → Prop where
  | allocate (state : State) (kind : EntityKind) (name : String) (template : EntityTemplate) :
      Edit state [.made (state.entities.allocate kind name template).1]
        { state with entities := (state.entities.allocate kind name template).2 }
  | startThread {state next : State} {owner : EntityId} {behavior : UInt16}
      {caller stackObject : Option EntityId} {params : Vector Int16 4} {id : ThreadId} :
      state.startThread owner behavior caller stackObject params = some (id, next) →
        Edit state [.started id] next
  | setThread (state : State) (id : ThreadId) (temps : Vector Int16 8) (frames : List StackFrame) :
      Edit state []
        { state with
          threads := state.threads.modify id fun thread => { thread with temps, frames } }
  | removeThread (state : State) (id : ThreadId) : Edit state [] (state.removeThread id)
  /-- Something about an entity changes that nothing else refers to. -/
  | reshape {state : State} {change : Entity → Entity} (id : EntityId) :
      (∀ entity, ∃ position attributes animation,
        change entity = { entity with position, attributes, animation }) →
        Edit state [] (state.modifyEntity id change)
  /-- An entity feels something about a live one. -/
  | relate {state : State} {other : EntityId} {value : Int16} (id : EntityId) :
      state.entities.contains other = true → relationshipMin ≤ value → value ≤ relationshipMax →
        Edit state [] (state.modifyEntity id fun entity =>
          { entity with relationships := entity.relationships.insert other value })
  /-- A client without an avatar gets an avatar without a client. -/
  | bind {state : State} {client : ClientId} {id : EntityId} {entity : Entity} :
      state.avatarOf? client = none → state.entities.get? id = some entity →
      entity.kind = .avatar → entity.client = none →
        Edit state [.bound client]
          { state.modifyEntity id (fun entity => { entity with client := some client }) with
            avatars := state.avatars.insert client id }
  /-- An entity picks another one up. -/
  | grab {state : State} {carrier object : EntityId} {holder held : Entity} :
      object ≠ carrier → state.entities.get? carrier = some holder → holder.carrying = none →
      state.entities.get? object = some held → held.carriedBy = none →
        Edit state []
          ((state.modifyEntity carrier fun entity =>
            { entity with carrying := some object }).modifyEntity object fun entity =>
              { entity with carriedBy := some carrier })
  /-- An entity puts down what it carries. -/
  | drop {state : State} {carrier object : EntityId} {holder : Entity} (position : Position) :
      state.entities.get? carrier = some holder → holder.carrying = some object →
        Edit state []
          ((state.modifyEntity object fun entity =>
            { entity with carriedBy := none, position }).modifyEntity carrier fun entity =>
              { entity with carrying := none })
  | playSound {state : State} {owner : EntityId} (sound : UInt32) (volume : UInt8)
      (looping : Bool) : state.entities.contains owner = true →
        Edit state ([.play state.sounds.allocate.1 sound volume owner].map .heard)
          (state.playSound owner sound volume looping)
  | stopSounds (state : State) (owner : EntityId) :
      Edit state (((state.stopped owner).map fun channel => .release channel owner).map .heard)
        (state.stopSounds owner)
  | despawn {state next : State} {id : EntityId} {trace : List TraceEntry} :
      state.despawn id = some (trace, next) →
        Edit state ((soundEvents .recording trace).map .heard) next
  /-- A tick is over. -/
  | tick (state : State) (tick : UInt64) :
      Edit state [] { state with sounds := state.sounds.refresh state.entities, tick }

/-- Edits one after the other, with all their deeds. -/
inductive Edits : State → List Deed → State → Prop where
  | none (state : State) : Edits state [] state
  | more {first middle last : State} {deeds latest : List Deed} :
      Edits first deeds middle → Edit middle latest last → Edits first (deeds ++ latest) last

namespace Edits

theorem one {before after : State} {deeds : List Deed} (edit : Edit before deeds after) :
    Edits before deeds after := .more (.none before) edit

theorem trans {first middle last : State} {deeds later : List Deed}
    (start : Edits first deeds middle) (rest : Edits middle later last) :
    Edits first (deeds ++ later) last := by
  induction rest with
  | none =>
    rw [List.append_nil]
    exact start
  | more _ edit inductionHypothesis =>
    rw [← List.append_assoc]
    exact .more inductionHypothesis edit

/-- What every edit keeps is kept by all edits together. -/
theorem keep {kept : State → Prop} {first last : State} {deeds : List Deed}
    (edits : Edits first deeds last) (start : kept first)
    (edit : ∀ {before after : State} {deeds : List Deed}, Edit before deeds after →
      kept before → kept after) : kept last := by
  induction edits with
  | none => exact start
  | more _ step inductionHypothesis => exact edit step inductionHypothesis

end Edits

/-- Edits that make no more than so many entities, start no more than so many threads, and tell the
player of sounds these events. No more clients get an avatar than entities are made. -/
def Changed (before : State) (entities threads : Nat) (events : List SoundEvent) (after : State) :
    Prop :=
  ∃ deeds, Edits before deeds after ∧ soundsHeard deeds = events ∧
    (entitiesMade deeds).length ≤ entities ∧ (threadsStarted deeds).length ≤ threads ∧
      (clientsBound deeds).length ≤ (entitiesMade deeds).length

namespace Changed

variable {before middle after : State} {entities threads : Nat} {events : List SoundEvent}

theorem refl (state : State) : state.Changed 0 0 [] state :=
  ⟨[], .none state, rfl, Nat.le_refl _, Nat.le_refl _, Nat.le_refl _⟩

/-- One edit that the player hears nothing of, and that gives out no identity. -/
theorem quiet (edit : Edit before [] after) : before.Changed 0 0 [] after :=
  ⟨[], .one edit, rfl, Nat.le_refl _, Nat.le_refl _, Nat.le_refl _⟩

/-- One edit whose deeds are what the player is told. -/
theorem loud (edit : Edit before (events.map .heard) after) : before.Changed 0 0 events after := by
  refine ⟨events.map .heard, .one edit, soundsHeard_heard events, ?_, ?_, ?_⟩
  · rw [entitiesMade_heard]
    exact Nat.le_refl _
  · rw [threadsStarted_heard]
    exact Nat.le_refl _
  · rw [clientsBound_heard]
    exact Nat.zero_le _

theorem startThread {owner : EntityId} {behavior : UInt16} {caller stackObject : Option EntityId}
    {params : Vector Int16 4} {id : ThreadId}
    (started : before.startThread owner behavior caller stackObject params = some (id, after)) :
    before.Changed 0 1 [] after :=
  ⟨_, .one (.startThread started), rfl, Nat.le_refl _, Nat.le_refl _, Nat.le_refl _⟩

theorem trans {laterEntities laterThreads : Nat} {later : List SoundEvent}
    (start : before.Changed entities threads events middle)
    (rest : middle.Changed laterEntities laterThreads later after) :
    before.Changed (entities + laterEntities) (threads + laterThreads) (events ++ later) after := by
  obtain ⟨deeds, edits, heard, made, started, bound⟩ := start
  obtain ⟨laterDeeds, laterEdits, laterHeard, laterMade, laterStarted, laterBound⟩ := rest
  refine ⟨deeds ++ laterDeeds, edits.trans laterEdits, ?_, ?_, ?_, ?_⟩
  · rw [soundsHeard_append, heard, laterHeard]
  · rw [entitiesMade_append, List.length_append]
    exact Nat.add_le_add made laterMade
  · rw [threadsStarted_append, List.length_append]
    exact Nat.add_le_add started laterStarted
  · rw [clientsBound_append, entitiesMade_append, List.length_append, List.length_append]
    exact Nat.add_le_add bound laterBound

/-- The edits, and how many entities they make. -/
theorem edits (changed : before.Changed entities threads events after) :
    ∃ deeds, Edits before deeds after ∧ (entitiesMade deeds).length ≤ entities := by
  obtain ⟨deeds, edits, _, made, _⟩ := changed
  exact ⟨deeds, edits, made⟩

theorem mono {moreEntities moreThreads : Nat}
    (changed : before.Changed entities threads events after) (made : entities ≤ moreEntities)
    (started : threads ≤ moreThreads) : before.Changed moreEntities moreThreads events after := by
  obtain ⟨deeds, edits, heard, fewMade, fewStarted, fewBound⟩ := changed
  exact ⟨deeds, edits, heard, Nat.le_trans fewMade made, Nat.le_trans fewStarted started, fewBound⟩

end Changed

/-- An entity is made, and then its first thread is started if it is to have one. -/
theorem spawn_cases (state : State) (kind : EntityKind) (name : String)
    (template : EntityTemplate) :
    let made : State := { state with entities := (state.entities.allocate kind name template).2 }
    let id : EntityId := ⟨state.entities.nextId + 1⟩
    template.behavior = none ∧ state.spawn kind name template = (id, made) ∨
      ∃ behavior thread next, template.behavior = some behavior ∧
        made.startThread id behavior none none (Vector.replicate 4 0) = some (thread, next) ∧
        state.spawn kind name template = (id, next) := by
  intro made id
  have alive : made.entities.contains id = true :=
    congrArg Option.isSome (Table.get?_insert_self state.entities.entities id _)
  cases begins : template.behavior with
  | none => exact .inl ⟨rfl, by rw [spawn, begins]; rfl⟩
  | some behavior =>
    obtain ⟨thread, next, started⟩ := startThread_of_alive alive behavior none none
      (Vector.replicate 4 0)
    refine .inr ⟨behavior, thread, next, rfl, started, ?_⟩
    have begun : made.startThread (state.entities.allocate kind name template).1 behavior none none
        (Vector.replicate 4 0) = some (thread, next) := started
    rw [spawn, begins]
    dsimp only
    rw [begun]
    rfl

/-- When an entity has been made, its first thread may be started. -/
theorem spawn_rest (state : State) (kind : EntityKind) (name : String)
    (template : EntityTemplate) :
    ∃ deeds, Edits { state with entities := (state.entities.allocate kind name template).2 } deeds
        (state.spawn kind name template).2 ∧ soundsHeard deeds = [] ∧
      entitiesMade deeds = [] ∧ (threadsStarted deeds).length ≤ 1 ∧ clientsBound deeds = [] := by
  obtain ⟨_, same⟩ | ⟨_, _, _, _, started, same⟩ := state.spawn_cases kind name template
  · rw [same]
    exact ⟨[], .none _, rfl, rfl, Nat.zero_le 1, rfl⟩
  · rw [same]
    exact ⟨_, .one (.startThread started), rfl, rfl, Nat.le_refl 1, rfl⟩

theorem spawn_edits (state : State) (kind : EntityKind) (name : String)
    (template : EntityTemplate) :
    ∃ deeds, Edits state deeds (state.spawn kind name template).2 ∧ soundsHeard deeds = [] ∧
      (entitiesMade deeds).length = 1 ∧ (threadsStarted deeds).length ≤ 1 ∧
      clientsBound deeds = [] := by
  obtain ⟨deeds, rest, heard, made, started, bound⟩ := state.spawn_rest kind name template
  refine ⟨_, (Edits.one (.allocate state kind name template)).trans rest, ?_, ?_, ?_, ?_⟩
  · rw [soundsHeard_append, heard]
    rfl
  · rw [entitiesMade_append, made]
    rfl
  · rw [threadsStarted_append, List.length_append]
    exact (Nat.zero_add _).symm ▸ started
  · rw [clientsBound_append, bound]
    rfl

theorem spawn_changed (state : State) (kind : EntityKind) (name : String)
    (template : EntityTemplate) :
    state.Changed 1 1 [] (state.spawn kind name template).2 := by
  obtain ⟨deeds, edits, heard, made, started, bound⟩ := state.spawn_edits kind name template
  exact ⟨deeds, edits, heard, Nat.le_of_eq made, started, bound ▸ Nat.zero_le _⟩

/-- An entity is made and becomes the avatar of a client. -/
theorem Changed.enroll {state spawned next : State} {kind : EntityKind} {name : String}
    {template : EntityTemplate} {id : EntityId} {client : ClientId}
    (makes : state.spawn kind name template = (id, spawned))
    (edit : Edit spawned [.bound client] next) : state.Changed 1 1 [] next := by
  obtain ⟨deeds, edits, heard, made, started, bound⟩ := state.spawn_edits kind name template
  rw [makes] at edits
  have one : (entitiesMade (deeds ++ [.bound client])).length = 1 := by
    rw [entitiesMade_append, List.length_append, made]
    rfl
  refine ⟨deeds ++ [.bound client], edits.trans (.one edit), ?_, Nat.le_of_eq one, ?_, ?_⟩
  · rw [soundsHeard_append, heard]
    rfl
  · rw [threadsStarted_append, List.length_append]
    exact started
  · rw [clientsBound_append, bound, one]
    exact Nat.le_refl 1

theorem fst_spawn (state : State) (kind : EntityKind) (name : String)
    (template : EntityTemplate) :
    (state.spawn kind name template).1 = ⟨state.entities.nextId + 1⟩ := by
  obtain ⟨_, same⟩ | ⟨_, _, _, _, _, same⟩ := state.spawn_cases kind name template
  · rw [same]
  · rw [same]

/-- The entity that was made, with its first thread if it has one. -/
theorem get?_spawn (state : State) (kind : EntityKind) (name : String)
    (template : EntityTemplate) :
    ∃ threads, (state.spawn kind name template).2.entities.get?
      (state.spawn kind name template).1 = some
        { Entity.new (state.entities.allocate kind name template).1 kind name template with
          threads } := by
  have fresh : (state.entities.allocate kind name template).2.get?
      (state.entities.allocate kind name template).1 =
        some (Entity.new (state.entities.allocate kind name template).1 kind name template) := by
    exact Table.get?_insert_self ..
  obtain ⟨_, same⟩ | ⟨_, id, _, _, started, same⟩ := state.spawn_cases kind name template
  · rw [same]
    exact ⟨[], fresh⟩
  · rw [same]
    obtain ⟨_, _, rfl⟩ := startThread_eq started
    refine ⟨[id], (Table.get?_modify_self ..).trans ?_⟩
    exact congrArg (Option.map _) fresh

/-- All other entities are as before. -/
theorem get?_spawn_of_ne (state : State) (kind : EntityKind) (name : String)
    (template : EntityTemplate) {probe : EntityId}
    (apart : probe ≠ (state.spawn kind name template).1) :
    (state.spawn kind name template).2.entities.get? probe = state.entities.get? probe := by
  rw [fst_spawn] at apart
  have kept : (state.entities.allocate kind name template).2.get? probe =
      state.entities.get? probe := Table.get?_insert_of_ne _ apart _
  obtain ⟨_, same⟩ | ⟨_, _, _, _, started, same⟩ := state.spawn_cases kind name template
  · rw [same]
    exact kept
  · rw [same]
    obtain ⟨_, _, rfl⟩ := startThread_eq started
    exact (Table.get?_modify_of_ne _ apart _).trans kept

/-- Making an entity leaves the tick, the sounds and the avatars alone. -/
theorem spawn_eq (state : State) (kind : EntityKind) (name : String) (template : EntityTemplate) :
    ∃ entities threads nextThreadSeq,
      (state.spawn kind name template).2 = { state with entities, threads, nextThreadSeq } := by
  obtain ⟨_, same⟩ | ⟨_, _, _, _, started, same⟩ := state.spawn_cases kind name template
  · exact ⟨_, _, _, congrArg Prod.snd same⟩
  · obtain ⟨_, _, rfl⟩ := startThread_eq started
    exact ⟨_, _, _, congrArg Prod.snd same⟩

theorem avatars_spawn (state : State) (kind : EntityKind) (name : String)
    (template : EntityTemplate) :
    (state.spawn kind name template).2.avatars = state.avatars := by
  obtain ⟨_, _, _, same⟩ := state.spawn_eq kind name template
  rw [same]

theorem tick_spawn (state : State) (kind : EntityKind) (name : String)
    (template : EntityTemplate) : (state.spawn kind name template).2.tick = state.tick := by
  obtain ⟨_, _, _, same⟩ := state.spawn_eq kind name template
  rw [same]

end State
end Lockstep
