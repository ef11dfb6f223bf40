import Lockstep.Primitive.Run
import Lockstep.Proofs.State.Without

/-!
# Primitives without a thread

A primitive reads no list of threads and no trace. So it ends in the same way when a thread is taken
out of all lists, or when more is in the trace, and it does the same to the rest
(`Primitive.run_without`). The rest includes the random numbers that are left, the variables of its
frame, the sounds, and the removals that it asks for.
-/

set_option autoImplicit false

namespace Lockstep

/-! ## Effects -/

namespace Effects

/-- Effects that come after an earlier trace. -/
def onto (earlier : List TraceEntry) (effects : Effects) : Effects :=
  { effects with trace := effects.trace ++ earlier }

variable (effects : Effects) (earlier : List TraceEntry)

theorem onto_nil : effects.onto [] = effects :=
  congrArg (Effects.mk effects.events effects.notices) (List.append_nil _)

theorem addTrace_onto (entries : List TraceEntry) :
    (effects.onto earlier).addTrace entries = (effects.addTrace entries).onto earlier :=
  congrArg (Effects.mk effects.events effects.notices) (List.append_assoc ..).symm

theorem addNote_onto (level : LogLevel) (text : String) :
    (effects.onto earlier).addNote level text = (effects.addNote level text).onto earlier :=
  effects.addTrace_onto earlier _

end Effects

/-! ## Contexts -/

namespace Context

/-- A context in which no entity lists a thread, and something has been traced earlier. -/
def without (thread : ThreadId) (earlier : List TraceEntry) (context : Context) : Context :=
  { context with
    entities := context.entities.unlist thread
    effects := context.effects.onto earlier }

variable (context : Context) (thread : ThreadId) (earlier : List TraceEntry)

theorem alive?_without (id : EntityId) :
    (context.without thread earlier).alive? id = context.alive? id :=
  if_congr (by rw [without, EntityTable.contains_unlist]) rfl rfl

theorem resolve_without (target : Target) :
    (context.without thread earlier).resolve target = context.resolve target := by
  have alive := funext (context.alive?_without thread earlier)
  cases target with
  | me => exact context.alive?_without thread earlier context.owner
  | caller => exact congrArg (Option.bind context.frame.caller) alive
  | stackObject => exact congrArg (Option.bind context.frame.stackObject) alive
  | carried =>
    have carried : ((context.entities.unlist thread).get? context.owner).bind Entity.carrying =
        (context.entities.get? context.owner).bind Entity.carrying := by
      rw [EntityTable.get?_unlist]
      cases context.entities.get? context.owner <;> rfl
    exact congrArg₂ Option.bind carried alive

theorem entity?_without (target : Target) :
    (context.without thread earlier).entity? target =
      (context.entity? target).map (Entity.unlist thread) := by
  rw [entity?, entity?, resolve_without]
  cases context.resolve target with
  | none => rfl
  | some id => exact context.entities.get?_unlist thread id

/-- What is asked of an entity, and not of its list. -/
theorem any_entity?_without (target : Target) (asks : Entity → Bool)
    (blind : ∀ entity, asks (entity.unlist thread) = asks entity) :
    ((context.without thread earlier).entity? target).any asks =
      (context.entity? target).any asks := by
  rw [entity?_without]
  cases context.entity? target with
  | none => rfl
  | some entity => exact blind entity

theorem liveEntity?_without (value : Int16) :
    (context.without thread earlier).liveEntity? value = context.liveEntity? value :=
  ite_congr rfl (fun _ => context.alive?_without thread earlier _) fun _ => rfl

/-- A change that lets lists be cut before or after it. -/
theorem modifyEntity_without (id : EntityId) (change : Entity → Entity)
    (commutes : ∀ entity, change (entity.unlist thread) = (change entity).unlist thread) :
    (context.without thread earlier).modifyEntity id change =
      (context.modifyEntity id change).without thread earlier :=
  congrArg (fun entities =>
    { context with entities, effects := context.effects.onto earlier })
    (context.entities.modify_unlist thread id change commutes)

/-! ## Variables -/

theorem requireTarget_without (target : Target) (fault : PrimitiveFault) :
    (context.without thread earlier).requireTarget target fault =
      (context.requireTarget target fault).map fun (id, entity) => (id, entity.unlist thread) := by
  rw [requireTarget, requireTarget, resolve_without]
  cases context.resolve target with
  | none => rfl
  | some id =>
    dsimp only [without]
    rw [EntityTable.get?_unlist]
    cases context.entities.get? id <;> rfl

theorem attributeOwner_without (target : Target) :
    (context.without thread earlier).attributeOwner target =
      (context.attributeOwner target).map fun (id, entity) => (id, entity.unlist thread) :=
  context.requireTarget_without thread earlier target _

theorem readAttribute_without (target : Target) (reference : VarRef) :
    (context.without thread earlier).readAttribute target reference =
      context.readAttribute target reference := by
  rw [readAttribute, readAttribute, attributeOwner_without]
  cases context.attributeOwner target <;> rfl

theorem writeAttribute_without (target : Target) (reference : VarRef) (value : Int16) :
    (context.without thread earlier).writeAttribute target reference value =
      (context.writeAttribute target reference value).map (without thread earlier) := by
  rw [writeAttribute, writeAttribute, attributeOwner_without]
  cases context.attributeOwner target with
  | error fault => rfl
  | ok owner =>
    cases slot reference 16 with
    | error fault => rfl
    | ok place =>
      exact congrArg Except.ok (context.modifyEntity_without thread earlier owner.1 _ fun _ => rfl)

theorem read_without (reference : VarRef) :
    (context.without thread earlier).read reference = context.read reference := by
  rw [read, read, resolve_without, readAttribute_without, readAttribute_without,
    readAttribute_without]
  rfl

theorem write_without (reference : VarRef) (value : Int16) :
    (context.without thread earlier).write reference value =
      (context.write reference value).map (without thread earlier) := by
  rw [write, write, liveEntity?_without, writeAttribute_without, writeAttribute_without,
    writeAttribute_without]
  cases reference.scope with
  | literal => rfl
  | temp => cases slot reference 8 <;> rfl
  | localVar => cases slot reference 8 <;> rfl
  | param => cases slot reference 4 <;> rfl
  | myAttribute => rfl
  | stackObjectAttribute => rfl
  | callerAttribute => rfl
  | stackObjectId =>
    dsimp only
    split
    · rfl
    · cases context.liveEntity? value <;> rfl

/-! ## Sounds and removals -/

theorem playSound_without (owner : EntityId) (sound : UInt32) (volume : UInt8) (looping : Bool) :
    (context.without thread earlier).playSound owner sound volume looping =
      ((context.playSound owner sound volume looping).1,
        (context.playSound owner sound volume looping).2.without thread earlier) := by
  let change (entity : Entity) : Entity :=
    { entity with
      sounds := entity.sounds ++ [⟨context.sounds.allocate.1, sound, volume, looping, owner⟩] }
  have entities := context.entities.modify_unlist thread owner change fun _ => rfl
  have effects := context.effects.addTrace_onto earlier
    [.sound (.play context.sounds.allocate.1 sound volume owner)]
  rw [playSound, playSound, without]
  dsimp only
  rw [entities, effects]
  rfl

theorem stopSounds_without (owner : EntityId) :
    (context.without thread earlier).stopSounds owner =
      ((context.stopSounds owner).1, (context.stopSounds owner).2.without thread earlier) := by
  rw [stopSounds, stopSounds, without]
  dsimp only
  rw [EntityTable.releaseSounds_unlist]
  dsimp only
  rw [Effects.addTrace_onto]
  rfl

theorem deferRemoval_without (id : EntityId) :
    (context.without thread earlier).deferRemoval id =
      (context.deferRemoval id).without thread earlier := by
  rw [deferRemoval, deferRemoval, apply_ite (without thread earlier)]
  rfl

end Context

/-! ## Primitives -/

namespace Primitive

variable {context : Context} {thread : ThreadId} {earlier : List TraceEntry}

/-- An outcome in which no entity lists a thread, and something has been traced earlier. -/
def without (thread : ThreadId) (earlier : List TraceEntry) (outcome : Exit × Context) :
    Exit × Context :=
  (outcome.1, outcome.2.without thread earlier)

theorem attempt_without {α : Type} (result : Except PrimitiveFault α)
    {next alike : α → Exit × Context}
    (each : ∀ value, alike value = without thread earlier (next value)) :
    attempt (context.without thread earlier) result alike =
      without thread earlier (attempt context result next) := by
  cases result with
  | ok value => exact each value
  | error fault => rfl

theorem store_without (reference : VarRef) (value : Int16) :
    store reference value (context.without thread earlier) =
      without thread earlier (store reference value context) := by
  rw [store, store, Context.write_without]
  cases context.write reference value <;> rfl

theorem wait_without (ticks : UInt16) (resumed : Option UInt32) :
    wait ticks resumed (context.without thread earlier) =
      without thread earlier (wait ticks resumed context) := by
  rw [wait, wait, apply_ite (without thread earlier)]
  rfl

theorem setStackObjectTo_without (source : VarRef) :
    setStackObjectTo source (context.without thread earlier) =
      without thread earlier (setStackObjectTo source context) := by
  rw [setStackObjectTo, setStackObjectTo, Context.read_without]
  refine attempt_without _ fun value => ?_
  rw [Context.liveEntity?_without]
  split
  · rfl
  · cases context.liveEntity? value <;> rfl

theorem evaluate_without (lhs rhs : VarRef) (op : ExpressionOp) :
    evaluate lhs rhs op (context.without thread earlier) =
      without thread earlier (evaluate lhs rhs op context) := by
  rw [evaluate, evaluate, Context.read_without, Context.read_without]
  refine attempt_without _ fun right => ?_
  split
  · exact store_without lhs right
  · refine attempt_without _ fun left => ?_
    split
    · rfl
    · exact attempt_without _ fun value => store_without lhs value

theorem storeRandom_without (dest range : VarRef) :
    storeRandom dest range (context.without thread earlier) =
      without thread earlier (storeRandom dest range context) := by
  rw [storeRandom, storeRandom, Context.read_without]
  refine attempt_without _ fun bound => ?_
  split
  · rfl
  · let drawn := context.random.below bound.toInt.toNat
    exact @store_without { context with random := drawn.2 } thread earlier dest
      (Int16.ofNat drawn.1)

theorem startSound_without (sound : UInt32) (volume : UInt8) (flags : SoundFlags) :
    startSound sound volume flags (context.without thread earlier) =
      without thread earlier (startSound sound volume flags context) := by
  rw [startSound, startSound, Context.resolve_without]
  cases context.resolve (targetOf flags.soundsOnStackObject) with
  | none => rfl
  | some owner =>
    dsimp only
    rw [Context.playSound_without]
    rfl

theorem stopSounds_without (flags : TargetFlags) :
    stopSounds flags (context.without thread earlier) =
      without thread earlier (stopSounds flags context) := by
  rw [stopSounds, stopSounds, Context.resolve_without]
  cases context.resolve (if flags.onStackObject then .stackObject else .caller) with
  | none => rfl
  | some owner =>
    dsimp only
    rw [Context.stopSounds_without]
    dsimp only
    split <;> rfl

theorem animateFor_without (animation duration : UInt16) (flags : TargetFlags)
    (resumed : Option UInt32) :
    animateFor animation duration flags resumed (context.without thread earlier) =
      without thread earlier (animateFor animation duration flags resumed context) := by
  rw [animateFor, animateFor, Context.resolve_without]
  cases context.resolve (targetOf flags.onStackObject) with
  | none => rfl
  | some id =>
    have showing (state : Option AnimationState) :=
      context.modifyEntity_without thread earlier id
        (fun entity => { entity with animation := state }) fun _ => rfl
    dsimp only
    rw [showing, showing, showing]
    split
    · rfl
    · split <;> rfl

theorem setRelationship_without (other : EntityId) (value : Int) :
    setRelationship other value (context.without thread earlier) =
      (setRelationship other value context).without thread earlier :=
  context.modifyEntity_without thread earlier context.owner _ fun _ => rfl

theorem relate_without (op : RelationshipOp) (reference : VarRef) :
    relate op reference (context.without thread earlier) =
      without thread earlier (relate op reference context) := by
  rw [relate, relate, Context.resolve_without]
  cases context.resolve .stackObject with
  | none => rfl
  | some other =>
    have current : (((context.without thread earlier).entity? .me).bind fun entity =>
        entity.relationships.get? other) = (context.entity? .me).bind fun entity =>
          entity.relationships.get? other := by
      rw [Context.entity?_without]
      cases context.entity? .me <;> rfl
    dsimp only
    rw [current, Context.read_without]
    cases op with
    | get => exact store_without reference _
    | set =>
      exact attempt_without _ fun value =>
        congrArg (Prod.mk _) (setRelationship_without other value.toInt)
    | adjust =>
      exact attempt_without _ fun value =>
        congrArg (Prod.mk _) (setRelationship_without other _)

theorem grab_without :
    grab (context.without thread earlier) = without thread earlier (grab context) := by
  rw [grab, grab, Context.resolve_without]
  cases context.resolve .stackObject with
  | none => rfl
  | some object =>
    have free := context.any_entity?_without thread earlier .me
      (fun entity => entity.carrying.isNone) fun _ => rfl
    have loose := context.any_entity?_without thread earlier .stackObject
      (fun entity => entity.carriedBy.isNone) fun _ => rfl
    dsimp only
    rw [free, loose, apply_ite (without thread earlier)]
    refine if_congr Iff.rfl ?_ rfl
    rw [Context.modifyEntity_without, Context.modifyEntity_without]
    · rfl
    · exact fun _ => rfl
    · exact fun _ => rfl

theorem drop_without :
    drop (context.without thread earlier) = without thread earlier (drop context) := by
  rw [drop, drop, Context.entity?_without, Context.resolve_without, Context.entity?_without]
  cases context.entity? .me with
  | none => rfl
  | some me =>
    cases context.resolve .carried with
    | none => rfl
    | some object =>
      cases context.entity? .carried with
      | none => rfl
      | some held =>
        dsimp only [Option.map_some]
        rw [Context.modifyEntity_without, Context.modifyEntity_without]
        · rfl
        · exact fun _ => rfl
        · exact fun _ => rfl

theorem requestRemoval_without (flags : TargetFlags) :
    requestRemoval flags (context.without thread earlier) =
      without thread earlier (requestRemoval flags context) := by
  rw [requestRemoval, requestRemoval, Context.resolve_without]
  cases context.resolve (targetOf flags.onStackObject) with
  | none => rfl
  | some id => exact congrArg (Prod.mk _) (context.deferRemoval_without thread earlier id)

theorem sendNotice_without (message : UInt16) :
    sendNotice message (context.without thread earlier) =
      without thread earlier (sendNotice message context) := by
  rw [sendNotice, sendNotice, Context.resolve_without, Context.resolve_without]
  cases (context.resolve .caller).or (context.resolve .me) <;> rfl

/-- **No primitive depends on a thread that is listed**, or on what has been traced. -/
theorem run_without (action : Primitive) (resumed : Option UInt32) :
    action.run resumed (context.without thread earlier) =
      without thread earlier (action.run resumed context) := by
  cases action with
  | sleep ticks => exact wait_without ticks resumed
  | expression lhs rhs op => exact evaluate_without lhs rhs op
  | randomNumber dest range => exact storeRandom_without dest range
  | playSound sound volume flags => exact startSound_without sound volume flags
  | stopAllSounds flags => exact stopSounds_without flags
  | animate animation duration flags => exact animateFor_without animation duration flags resumed
  | relationship op value => exact relate_without op value
  | carry op =>
    cases op with
    | grab => exact grab_without
    | drop => exact drop_without
  | setStackObject source => exact setStackObjectTo_without source
  | removeObject flags => exact requestRemoval_without flags
  | notify message => exact sendNotice_without message

end Primitive
end Lockstep
