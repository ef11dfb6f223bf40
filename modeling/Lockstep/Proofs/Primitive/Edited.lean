import Lockstep.Proofs.Primitive.Outcomes
import Lockstep.Proofs.Sound.Log
import Lockstep.Proofs.State.Edit

/-!
# Primitives make edits

A primitive changes a state only by edits (`Primitive.run_edited`), and makes no entities and
starts no threads. What it gives to the outside tells the player of sounds exactly what the edits
list as their deeds.

`Underway.Edited` says this of two points of a tick. It also bounds how many entities were made and
how many threads were started between them, which is what keeps counters from running over.
-/

set_option autoImplicit false

namespace Lockstep

/-! ## What a player hears -/

/-- What the effects tell the player of sounds, first thing first. -/
def Effects.heard (effects : Effects) : List SoundEvent :=
  soundEvents .recording effects.trace.reverse

namespace Effects

theorem heard_addTrace (effects : Effects) (entries : List TraceEntry) :
    (effects.addTrace entries).heard = effects.heard ++ soundEvents .recording entries := by
  rw [heard, addTrace, List.reverse_append, List.reverse_reverse, soundEvents_append]
  rfl

@[simp] theorem heard_addNote (effects : Effects) (level : LogLevel) (text : String) :
    (effects.addNote level text).heard = effects.heard := by
  rw [addNote, heard_addTrace]
  exact List.append_nil _

end Effects

/-! ## Points of a tick -/

namespace Underway

/-- Between two points of a tick there were only edits, and the player was told of them. No more
than so many entities were made and threads started. -/
def Edited (before : Underway) (entities threads : Nat) (after : Underway) : Prop :=
  ∃ events, before.state.Changed entities threads events after.state ∧
    after.effects.heard = before.effects.heard ++ events

namespace Edited

variable {before middle after : Underway} {entities threads : Nat}

/-- The state changed, and the player was told nothing. -/
theorem silent (changed : before.state.Changed entities threads [] after.state)
    (heard : after.effects.heard = before.effects.heard) : before.Edited entities threads after :=
  ⟨[], changed, heard.trans (List.append_nil _).symm⟩

/-- Nothing happened to the state, and the player was told nothing. -/
theorem same (state : after.state = before.state)
    (heard : after.effects.heard = before.effects.heard) : before.Edited 0 0 after :=
  silent (state ▸ .refl _) heard

theorem refl (underway : Underway) : underway.Edited 0 0 underway := same rfl rfl

/-- One edit that the player hears nothing of, and that gives out no identity. -/
theorem quiet (edit : State.Edit before.state [] after.state)
    (heard : after.effects.heard = before.effects.heard) : before.Edited 0 0 after :=
  silent (.quiet edit) heard

/-- One edit whose deeds are what the player is told. -/
theorem loud {events : List SoundEvent}
    (edit : State.Edit before.state (events.map .heard) after.state)
    (heard : after.effects.heard = before.effects.heard ++ events) : before.Edited 0 0 after :=
  ⟨events, .loud edit, heard⟩

theorem trans {laterEntities laterThreads : Nat} (start : before.Edited entities threads middle)
    (rest : middle.Edited laterEntities laterThreads after) :
    before.Edited (entities + laterEntities) (threads + laterThreads) after := by
  obtain ⟨events, changed, heard⟩ := start
  obtain ⟨later, laterChanged, laterHeard⟩ := rest
  exact ⟨events ++ later, changed.trans laterChanged, by
    rw [laterHeard, heard, List.append_assoc]⟩

theorem mono {moreEntities moreThreads : Nat} (edited : before.Edited entities threads after)
    (made : entities ≤ moreEntities) (started : threads ≤ moreThreads) :
    before.Edited moreEntities moreThreads after := by
  obtain ⟨events, changed, heard⟩ := edited
  exact ⟨events, changed.mono made started, heard⟩

end Edited
end Underway

/-! ## Contexts -/

namespace Context

/-- The point of a tick that a context is, given the rest of the state. -/
def within (context : Context) (state : State) : Underway where
  state := { state with entities := context.entities, sounds := context.sounds }
  random := context.random
  effects := context.effects

end Context

namespace Underway

/-- What a primitive works on when a thread carries it out. -/
def Fetched.context (fetched : Fetched) (id : ThreadId) (underway : Underway) : Context where
  owner := id.owner
  entities := underway.state.entities
  sounds := underway.state.sounds
  frame := fetched.frame
  temps := fetched.temps
  random := underway.random
  effects := underway.effects
  removals := []

/-- A primitive is carried out in its context, then the removals take place that it has asked for,
and then the thread goes on, if it is still there. -/
theorem perform_eq (library : Library) (id : ThreadId) (fetched : Fetched)
    (instruction : Instruction) (action : Primitive) (underway : Underway) :
    perform library id fetched instruction action underway =
      let outcome := action.run fetched.resumed (fetched.context id underway)
      let after := outcome.2.removals.foldl remove (outcome.2.within underway.state)
      if after.state.threads.contains id then
        finish library id instruction action.kind outcome.2.frame fetched.callers outcome.2.temps
          outcome.1 after
      else (.done .removed, after) := by
  rw [perform, Primitive.dispatch_self]
  rfl

end Underway

namespace Context

/-- What is done to a context is done by edits. -/
def Edited (state : State) (before after : Context) : Prop :=
  (before.within state).Edited 0 0 (after.within state)

variable {state : State} {context : Context}

theorem Edited.same {after : Context} (entities : after.entities = context.entities)
    (sounds : after.sounds = context.sounds) (heard : after.effects.heard = context.effects.heard) :
    Edited state context after := by
  refine Underway.Edited.same ?_ heard
  show ({ state with entities := after.entities, sounds := after.sounds } : State) =
    { state with entities := context.entities, sounds := context.sounds }
  rw [entities, sounds]

theorem edited_reshape (id : EntityId) {change : Entity → Entity}
    (shape : ∀ entity, ∃ position attributes animation,
      change entity = { entity with position, attributes, animation }) :
    Edited state context (context.modifyEntity id change) :=
  .quiet (.reshape id shape) rfl

theorem edited_write {reference : VarRef} {value : Int16} {after : Context}
    (written : context.write reference value = .ok after) : Edited state context after := by
  cases wrote_of_write written with
  | temps temps => exact .same rfl rfl rfl
  | frame locals params chosen => exact .same rfl rfl rfl
  | entity id place => exact edited_reshape id fun entity => ⟨_, _, _, rfl⟩

/-! ## Sounds -/

theorem edited_playSound (owner : EntityId) (sound : UInt32) (volume : UInt8) (looping : Bool)
    (alive : context.entities.contains owner = true) :
    Edited state context (context.playSound owner sound volume looping).2 := by
  refine .loud (.playSound sound volume looping alive) ?_
  exact Effects.heard_addTrace context.effects _

theorem edited_stopSounds (owner : EntityId) :
    Edited state context (context.stopSounds owner).2 := by
  refine .loud (.stopSounds _ owner) ?_
  show (context.effects.addTrace _).heard = _
  rw [Effects.heard_addTrace, soundEvents_releases]
  rfl

end Context

/-! ## Primitives -/

namespace Primitive

open Context (Edited)

variable {state : State} {context : Context}

theorem edited_setRelationship {other : EntityId} (alive : context.entities.contains other = true)
    (value : Int) : Edited state context (setRelationship other value context) := by
  have low : relationshipMin.toInt ≤ max relationshipMin.toInt (min relationshipMax.toInt value) :=
    Int.le_max_left _ _
  have high : max relationshipMin.toInt (min relationshipMax.toInt value) ≤ relationshipMax.toInt :=
    Int.max_le.mpr ⟨by decide, Int.min_le_left _ _⟩
  have stored : (Int16.ofInt (max relationshipMin.toInt (min relationshipMax.toInt value))).toInt =
      max relationshipMin.toInt (min relationshipMax.toInt value) :=
    Int16.toInt_ofInt_of_le (Int.le_trans (by decide) low) (Int.lt_of_le_of_lt high (by decide))
  refine .quiet (.relate context.owner alive ?_ ?_) rfl
  · rw [Int16.le_iff_toInt_le, stored]
    exact low
  · rw [Int16.le_iff_toInt_le, stored]
    exact high

/-- What a primitive comes to is reached by edits. -/
theorem Outcome.edited {action : Primitive} {result : Exit × Context}
    (outcome : Outcome context action result) : Edited state context result.2 := by
  cases outcome with
  | fails | passes | sleeps => exact .refl _
  | stores written => exact Context.edited_write written
  | @draws _ _ _ random _ written =>
    -- The drawn number changes what random numbers are left, which is no part of the state.
    have same : Edited state context { context with random } := .same rfl rfl rfl
    exact same.trans (Context.edited_write written)
  | loses | chooses | asks | notifies => exact .same rfl rfl rfl
  | @plays sound volume flags owner resolved =>
    have played : Edited state context (context.playSound owner sound volume flags.loops).2 :=
      Context.edited_playSound owner sound volume flags.loops (Context.contains_of_resolve resolved)
    exact played.trans (Underway.Edited.same rfl rfl)
  | silences => exact Context.edited_stopSounds _
  | @releases _ owner =>
    have released : Edited state context (context.stopSounds owner).2 :=
      Context.edited_stopSounds owner
    exact released.trans (Underway.Edited.same rfl rfl)
  | shows | animates => exact Context.edited_reshape _ fun entity => ⟨_, _, _, rfl⟩
  | relates value resolved => exact edited_setRelationship (Context.contains_of_resolve resolved) value
  | grabs _ apart holds free carries loose => exact .quiet (.grab apart holds free carries loose) rfl
  | @drops _ me _ _ holds carried => exact .quiet (.drop me.position holds carried) rfl

/-- **A primitive changes a state only by edits**, and makes and starts nothing. -/
theorem run_edited (action : Primitive) (resumed : Option UInt32) :
    Edited state context (action.run resumed context).2 :=
  (run_outcome action resumed context).edited

end Primitive
end Lockstep
