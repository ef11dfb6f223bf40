import Lockstep.Primitive.Run

/-!
# Outcomes of primitives

There are sixteen ways in which a primitive can end (`Primitive.Outcome`), and it ends in no other
way (`Primitive.run_outcome`), whatever its context is and wherever it had been resumed. It fails or
passes without doing anything. It sets a variable, perhaps to a random number, or draws one that
cannot be stored. Or it does what only primitives of its kind do: it chooses the stack object, waits,
starts or stops sounds, shows an animation, has feelings, picks something up or puts it down, asks
for removals, or sends a message.

What every primitive keeps is proved by cases on its outcome. Nothing else about primitives has to be
unfolded for that.
-/

set_option autoImplicit false

namespace Lockstep

/-! ## Faults -/

/-- Something that does not fail because of a foreign operand. -/
def Accepts {α : Type} (result : Except PrimitiveFault α) : Prop :=
  ∀ expected, result ≠ .error (.operandMismatch expected)

section Accepts

variable {α β : Type}

theorem accepts_ok (value : α) : Accepts (.ok value) := by
  simp [Accepts]

theorem Accepts.bind {result : Except PrimitiveFault α} {next : α → Except PrimitiveFault β}
    (accepts : Accepts result) (each : ∀ value, Accepts (next value)) :
    Accepts (result >>= next) := by
  cases result with
  | ok value => exact each value
  | error fault =>
    exact fun expected same => accepts expected (congrArg Except.error (Except.error.inj same))

theorem Accepts.map {result : Except PrimitiveFault α} (accepts : Accepts result)
    (change : α → β) : Accepts (result.map change) := by
  cases result with
  | ok value => exact accepts_ok (change value)
  | error fault =>
    exact fun expected same => accepts expected (congrArg Except.error (Except.error.inj same))

end Accepts

namespace Context

variable {context : Context}

/-! ## Entities within reach -/

theorem alive_of_alive? {id found : EntityId} (alive : context.alive? id = some found) :
    found = id ∧ context.entities.contains id = true := by
  rw [alive?] at alive
  obtain ⟨present, same⟩ := Option.ite_none_right_eq_some.mp alive
  exact ⟨(Option.some.inj same).symm, present⟩

/-- What is named and alive is what is named, and is alive. -/
theorem alive_of_bind {reference : Option EntityId} {id : EntityId}
    (resolved : reference.bind context.alive? = some id) :
    reference = some id ∧ context.entities.contains id = true := by
  obtain ⟨named, held, found⟩ := Option.bind_eq_some_iff.mp resolved
  obtain ⟨rfl, alive⟩ := alive_of_alive? found
  exact ⟨held, alive⟩

/-- Entities within reach are alive. -/
theorem contains_of_resolve {target : Target} {id : EntityId}
    (resolved : context.resolve target = some id) : context.entities.contains id = true := by
  cases target with
  | me =>
    obtain ⟨rfl, alive⟩ := alive_of_alive? resolved
    exact alive
  | caller => exact (alive_of_bind resolved).2
  | stackObject => exact (alive_of_bind resolved).2
  | carried => exact (alive_of_bind resolved).2

/-- The owner is the only entity that can be reached as the owner. -/
theorem get?_of_me {entity : Entity} (found : context.entity? .me = some entity) :
    context.entities.get? context.owner = some entity := by
  obtain ⟨id, resolved, held⟩ := Option.bind_eq_some_iff.mp found
  obtain ⟨rfl, _⟩ := alive_of_alive? resolved
  exact held

/-- A stack object that the running frame may have next: its own, none, or a live entity. -/
def Chooses (context : Context) (stackObject : Option EntityId) : Prop :=
  stackObject = context.frame.stackObject ∨
    ∀ id, stackObject = some id → context.entities.contains id = true

theorem chooses_live {value : Int16} {id : EntityId}
    (found : context.liveEntity? value = some id) : context.Chooses (some id) := by
  rw [liveEntity?] at found
  obtain ⟨_, alive⟩ := Option.ite_none_right_eq_some.mp found
  obtain ⟨rfl, present⟩ := alive_of_alive? alive
  exact .inr fun _ same => Option.some.inj same ▸ present

theorem chooses_none : context.Chooses none := .inr fun _ same => nomatch same

/-! ## Variables -/

theorem map_slot_eq {reference : VarRef} {count : Nat} {change : Fin count → Context}
    {after : Context} (written : (slot reference count).map change = .ok after) :
    ∃ place, after = change place := by
  cases placed : slot reference count with
  | error fault => exact absurd (placed ▸ written) (by simp [Except.map])
  | ok place =>
    rw [placed] at written
    exact ⟨place, (Except.ok.inj written).symm⟩

theorem resolve_of_requireTarget {target : Target} {fault : PrimitiveFault}
    {found : EntityId × Entity} (required : context.requireTarget target fault = .ok found) :
    context.resolve target = some found.1 := by
  rw [requireTarget] at required
  cases resolved : context.resolve target with
  | none =>
    rw [resolved] at required
    cases required
  | some id =>
    rw [resolved] at required
    dsimp only at required
    cases held : context.entities.get? id with
    | none =>
      rw [held] at required
      cases required
    | some entity =>
      rw [held] at required
      rw [← Except.ok.inj required]

theorem writeAttribute_eq {target : Target} {reference : VarRef} {value : Int16}
    {after : Context} (written : context.writeAttribute target reference value = .ok after) :
    ∃ (id : EntityId) (place : Fin 16), context.resolve target = some id ∧
      after = context.modifyEntity id fun entity =>
        { entity with attributes := setSlot entity.attributes place value } := by
  rw [writeAttribute] at written
  cases found : context.attributeOwner target with
  | error fault => exact absurd (found ▸ written) (by simp [bind, Except.bind])
  | ok entity =>
    cases placed : slot reference 16 with
    | error fault => exact absurd (placed ▸ found ▸ written) (by simp [bind, Except.bind])
    | ok place =>
      rw [found, placed] at written
      exact ⟨entity.1, place, resolve_of_requireTarget found, (Except.ok.inj written).symm⟩

/-- Writing a variable changes the temporary values, the variables or the stack object of the frame,
or an attribute of an entity within reach. -/
inductive Wrote (context : Context) (value : Int16) : Context → Prop where
  | temps (temps : Vector Int16 8) : Wrote context value { context with temps }
  | frame (locals : Vector Int16 8) (params : Vector Int16 4) {stackObject : Option EntityId} :
      context.Chooses stackObject → Wrote context value
        { context with frame := { context.frame with locals, params, stackObject } }
  | entity (id : EntityId) (place : Fin 16) {target : Target} :
      context.resolve target = some id → Wrote context value (context.modifyEntity id fun entity =>
        { entity with attributes := setSlot entity.attributes place value })

theorem wrote_of_writeAttribute {target : Target} {reference : VarRef} {value : Int16}
    {after : Context} (written : context.writeAttribute target reference value = .ok after) :
    context.Wrote value after := by
  obtain ⟨id, place, resolved, rfl⟩ := writeAttribute_eq written
  exact .entity id place resolved

theorem wrote_of_write {reference : VarRef} {value : Int16} {after : Context}
    (written : context.write reference value = .ok after) : context.Wrote value after := by
  obtain ⟨scope, data⟩ := reference
  cases scope with
  | literal => cases written
  | temp =>
    obtain ⟨place, rfl⟩ := map_slot_eq written
    exact .temps _
  | localVar =>
    obtain ⟨place, rfl⟩ := map_slot_eq written
    exact .frame _ _ (.inl rfl)
  | param =>
    obtain ⟨place, rfl⟩ := map_slot_eq written
    exact .frame _ _ (.inl rfl)
  | myAttribute => exact wrote_of_writeAttribute written
  | stackObjectAttribute => exact wrote_of_writeAttribute written
  | callerAttribute => exact wrote_of_writeAttribute written
  | stackObjectId =>
    dsimp only [write] at written
    by_cases zero : value = 0
    · rw [if_pos zero] at written
      obtain rfl := Except.ok.inj written
      exact .frame _ _ chooses_none
    · rw [if_neg zero] at written
      cases found : context.liveEntity? value with
      | none =>
        rw [found] at written
        cases written
      | some id =>
        rw [found] at written
        obtain rfl := Except.ok.inj written
        exact .frame _ _ (chooses_live found)

theorem accepts_slot (reference : VarRef) (count : Nat) : Accepts (slot reference count) := by
  rw [slot]
  split <;> simp [Accepts]

theorem accepts_requireTarget (target : Target) {fault : PrimitiveFault}
    (other : ∀ expected, fault ≠ .operandMismatch expected) :
    Accepts (context.requireTarget target fault) := by
  have refused : Accepts (.error fault : Except PrimitiveFault (EntityId × Entity)) :=
    fun expected same => other expected (Except.error.inj same)
  rw [requireTarget]
  cases context.resolve target with
  | none => exact refused
  | some id =>
    dsimp only
    cases context.entities.get? id with
    | none => exact refused
    | some entity => exact accepts_ok _

theorem accepts_attributeOwner (target : Target) : Accepts (context.attributeOwner target) :=
  accepts_requireTarget target (by cases target <;> simp)

theorem accepts_readAttribute (target : Target) (reference : VarRef) :
    Accepts (context.readAttribute target reference) :=
  (accepts_attributeOwner target).bind fun _ => (accepts_slot reference 16).bind fun _ => accepts_ok _

theorem accepts_writeAttribute (target : Target) (reference : VarRef) (value : Int16) :
    Accepts (context.writeAttribute target reference value) :=
  (accepts_attributeOwner target).bind fun _ => (accepts_slot reference 16).bind fun _ => accepts_ok _

theorem accepts_read (reference : VarRef) : Accepts (context.read reference) := by
  obtain ⟨scope, data⟩ := reference
  cases scope with
  | literal => exact accepts_ok data
  | temp => exact (accepts_slot ⟨.temp, data⟩ 8).map _
  | localVar => exact (accepts_slot ⟨.localVar, data⟩ 8).map _
  | param => exact (accepts_slot ⟨.param, data⟩ 4).map _
  | myAttribute => exact accepts_readAttribute .me _
  | stackObjectAttribute => exact accepts_readAttribute .stackObject _
  | callerAttribute => exact accepts_readAttribute .caller _
  | stackObjectId =>
    dsimp only [read]
    split
    · exact accepts_ok 0
    · split <;> simp [Accepts]

theorem accepts_write (reference : VarRef) (value : Int16) :
    Accepts (context.write reference value) := by
  obtain ⟨scope, data⟩ := reference
  cases scope with
  | literal => simp [Accepts, write]
  | temp => exact (accepts_slot ⟨.temp, data⟩ 8).map _
  | localVar => exact (accepts_slot ⟨.localVar, data⟩ 8).map _
  | param => exact (accepts_slot ⟨.param, data⟩ 4).map _
  | myAttribute => exact accepts_writeAttribute .me _ value
  | stackObjectAttribute => exact accepts_writeAttribute .stackObject _ value
  | callerAttribute => exact accepts_writeAttribute .caller _ value
  | stackObjectId =>
    dsimp only [write]
    split
    · exact accepts_ok _
    · split <;> simp [Accepts]

end Context

namespace Primitive

theorem accepts_combineValues (op : ExpressionOp) (lhs rhs : Int16) :
    Accepts (combineValues op lhs rhs) := by
  cases op with
  | div =>
    rw [combineValues]
    split <;> simp [Accepts]
  | mod =>
    rw [combineValues]
    split <;> simp [Accepts]
  | _ => exact accepts_ok _

/-! ## Outcomes -/

/-- What a primitive comes to in a context. -/
inductive Outcome (context : Context) : Primitive → Exit × Context → Prop where
  /-- It fails before anything is done. -/
  | fails {action : Primitive} {fault : PrimitiveFault} :
      (∀ expected, fault ≠ .operandMismatch expected) →
      Outcome context action (.fault fault, context)
  /-- There is nothing to do. -/
  | passes {action : Primitive} (result : Bool) : Outcome context action (.branch result, context)
  /-- A variable is set. -/
  | stores {action : Primitive} {reference : VarRef} {value : Int16} {after : Context} :
      context.write reference value = .ok after → Outcome context action (.branch true, after)
  /-- A random number is drawn and stored. -/
  | draws {dest range : VarRef} {value : Int16} {random : Random.Stream} {after : Context} :
      Context.write { context with random } dest value = .ok after →
      Outcome context (.randomNumber dest range) (.branch true, after)
  /-- A random number is drawn and cannot be stored. -/
  | loses {dest range : VarRef} {random : Random.Stream} {fault : PrimitiveFault} :
      (∀ expected, fault ≠ .operandMismatch expected) →
      Outcome context (.randomNumber dest range) (.fault fault, { context with random })
  /-- There are ticks left to sleep for. -/
  | sleeps {ticks : UInt16} (progress : UInt32) :
      Outcome context (.sleep ticks) (.yield progress, context)
  /-- The stack object is chosen. -/
  | chooses {source : VarRef} {stackObject : Option EntityId} : context.Chooses stackObject →
      Outcome context (.setStackObject source) (.branch true, context.setStackObject stackObject)
  /-- A sound is started. -/
  | plays {sound : UInt32} {volume : UInt8} {flags : SoundFlags} {owner : EntityId} :
      context.resolve (targetOf flags.soundsOnStackObject) = some owner →
      Outcome context (.playSound sound volume flags)
        (.branch true, (context.playSound owner sound volume flags.loops).2.addEvent
          ("sound " ++ hexNumeral sound.toNat ++ " on channel " ++
            toString (context.playSound owner sound volume flags.loops).1.number.toNat ++ " for " ++
            owner.text))
  /-- Sounds are to be stopped, and there are none. -/
  | silences {flags : TargetFlags} {owner : EntityId} :
      context.resolve (if flags.onStackObject then .stackObject else .caller) = some owner →
      (context.stopSounds owner).1 = 0 →
      Outcome context (.stopAllSounds flags) (.branch true, (context.stopSounds owner).2)
  /-- Sounds are stopped. -/
  | releases {flags : TargetFlags} {owner : EntityId} :
      context.resolve (if flags.onStackObject then .stackObject else .caller) = some owner →
      Outcome context (.stopAllSounds flags)
        (.branch true, (context.stopSounds owner).2.addEvent
          ("released " ++ toString (context.stopSounds owner).1 ++ " sound(s) held by " ++ owner.text))
  /-- An animation ends, or is one that takes no time. -/
  | shows {animation duration : UInt16} {flags : TargetFlags} {id : EntityId}
      (shown : Option AnimationState) :
      context.resolve (targetOf flags.onStackObject) = some id →
      Outcome context (.animate animation duration flags)
        (.branch true, context.modifyEntity id fun entity => { entity with animation := shown })
  /-- An animation goes on. -/
  | animates {animation duration : UInt16} {flags : TargetFlags} {id : EntityId}
      (shown : Option AnimationState) (progress : UInt32) :
      context.resolve (targetOf flags.onStackObject) = some id →
      Outcome context (.animate animation duration flags)
        (.yield progress, context.modifyEntity id fun entity => { entity with animation := shown })
  /-- The owner has a feeling about the stack object. -/
  | relates {op : RelationshipOp} {reference : VarRef} {other : EntityId} (value : Int) :
      context.resolve .stackObject = some other →
      Outcome context (.relationship op reference)
        (.branch true, setRelationship other value context)
  /-- The owner picks the stack object up. -/
  | grabs {object : EntityId} {holder held : Entity} :
      context.resolve .stackObject = some object → object ≠ context.owner →
      context.entities.get? context.owner = some holder → holder.carrying = none →
      context.entities.get? object = some held → held.carriedBy = none →
      Outcome context (.carry .grab)
        (.branch true, ((context.modifyEntity context.owner fun entity =>
            { entity with carrying := some object }).modifyEntity object fun entity =>
              { entity with carriedBy := some context.owner }).addEvent
          (context.owner.text ++ " picked up " ++ object.text))
  /-- The owner puts down what it carries. -/
  | drops {object : EntityId} {me held : Entity} :
      context.resolve .carried = some object → context.entities.get? context.owner = some me →
      me.carrying = some object →
      Outcome context (.carry .drop)
        (.branch true, ((context.modifyEntity object fun entity =>
            { entity with carriedBy := none, position := me.position }).modifyEntity context.owner
              fun entity => { entity with carrying := none }).addEvent
          (context.owner.text ++ " dropped " ++ held.id.text))
  /-- The owner or the stack object is to be removed, unless that was asked for already. -/
  | asks {flags : TargetFlags} {asked : List EntityId} :
      (∀ id ∈ asked, id = context.owner ∨ context.frame.stackObject = some id) →
      Outcome context (.removeObject flags)
        (.branch true, { context with removals := context.removals ++ asked })
  /-- A message is sent. -/
  | notifies {message : UInt16} (entity : EntityId) :
      Outcome context (.notify message) (.branch true, context.addNotice ⟨entity, message⟩)

variable {context : Context} {action : Primitive}

theorem attempt_outcome {α : Type} {result : Except PrimitiveFault α} {next : α → Exit × Context}
    (accepts : Accepts result)
    (each : ∀ value, result = .ok value → Outcome context action (next value)) :
    Outcome context action (attempt context result next) := by
  cases result with
  | ok value => exact each value rfl
  | error fault => exact .fails fun expected same => accepts expected (congrArg Except.error same)

theorem store_outcome (reference : VarRef) (value : Int16) :
    Outcome context action (store reference value context) :=
  attempt_outcome (Context.accepts_write reference value) fun _ written => .stores written

theorem wait_outcome (ticks : UInt16) (resumed : Option UInt32) :
    Outcome context (.sleep ticks) (wait ticks resumed context) := by
  rw [wait]
  by_cases ended : resumed.getD ticks.toUInt32 = 0
  · exact (if_pos ended).symm ▸ .passes true
  · exact (if_neg ended).symm ▸ .sleeps _

theorem setStackObjectTo_outcome (source : VarRef) :
    Outcome context (.setStackObject source) (setStackObjectTo source context) := by
  refine attempt_outcome (Context.accepts_read source) fun value _ => ?_
  by_cases zero : value = 0
  · exact (if_pos zero).symm ▸ .chooses Context.chooses_none
  · rw [if_neg zero]
    cases found : context.liveEntity? value with
    | none => exact .passes false
    | some id => exact .chooses (Context.chooses_live found)

theorem evaluate_outcome (lhs rhs : VarRef) (op : ExpressionOp) :
    Outcome context (.expression lhs rhs op) (evaluate lhs rhs op context) := by
  refine attempt_outcome (Context.accepts_read rhs) fun right _ => ?_
  by_cases assigns : op = .assign
  · exact (if_pos assigns).symm ▸ store_outcome lhs right
  · rw [if_neg assigns]
    refine attempt_outcome (Context.accepts_read lhs) fun left _ => ?_
    by_cases compares : op.isComparison = true
    · exact (if_pos compares).symm ▸ .passes _
    · rw [if_neg compares]
      exact attempt_outcome (accepts_combineValues op left right) fun value _ => store_outcome lhs value

theorem storeRandom_outcome (dest range : VarRef) :
    Outcome context (.randomNumber dest range) (storeRandom dest range context) := by
  refine attempt_outcome (Context.accepts_read range) fun bound _ => ?_
  by_cases invalid : bound ≤ 0
  · exact (if_pos invalid).symm ▸ .fails nofun
  · rw [if_neg invalid]
    rcases context.random.below bound.toInt.toNat with ⟨number, random⟩
    show Outcome context (.randomNumber dest range)
      (store dest (Int16.ofNat number) { context with random })
    rw [store]
    cases written : Context.write { context with random } dest (Int16.ofNat number) with
    | ok after => exact .draws written
    | error fault =>
      refine .loses fun expected same => ?_
      exact Context.accepts_write dest (Int16.ofNat number) expected (same ▸ written)

theorem startSound_outcome (sound : UInt32) (volume : UInt8) (flags : SoundFlags) :
    Outcome context (.playSound sound volume flags) (startSound sound volume flags context) := by
  rw [startSound]
  cases resolved : context.resolve (targetOf flags.soundsOnStackObject) with
  | none => exact .passes false
  | some owner => exact .plays resolved

theorem stopSounds_outcome (flags : TargetFlags) :
    Outcome context (.stopAllSounds flags) (stopSounds flags context) := by
  rw [stopSounds]
  cases resolved : context.resolve (if flags.onStackObject then .stackObject else .caller) with
  | none => exact .passes true
  | some owner =>
    dsimp only
    by_cases silent : (context.stopSounds owner).1 = 0
    · exact (if_pos silent).symm ▸ .silences resolved silent
    · exact (if_neg silent).symm ▸ .releases resolved

theorem animateFor_outcome (animation duration : UInt16) (flags : TargetFlags)
    (resumed : Option UInt32) :
    Outcome context (.animate animation duration flags)
      (animateFor animation duration flags resumed context) := by
  rw [animateFor]
  cases resolved : context.resolve (targetOf flags.onStackObject) with
  | none => exact .passes false
  | some id =>
    dsimp only
    by_cases none : duration = 0
    · exact (if_pos none).symm ▸ .shows _ resolved
    · rw [if_neg none]
      by_cases ended : duration.toUInt32 ≤ resumed.getD 0
      · exact (if_pos ended).symm ▸ .shows _ resolved
      · exact (if_neg ended).symm ▸ .animates _ _ resolved

theorem relate_outcome (op : RelationshipOp) (reference : VarRef) :
    Outcome context (.relationship op reference) (relate op reference context) := by
  rw [relate]
  cases resolved : context.resolve .stackObject with
  | none => exact .passes false
  | some other =>
    have changes (value : Int16 → Int) : Outcome context (.relationship op reference)
        (attempt context (context.read reference) fun read =>
          (.branch true, setRelationship other (value read) context)) :=
      attempt_outcome (Context.accepts_read reference) fun _ _ => .relates _ resolved
    cases op with
    | get => exact store_outcome reference _
    | set => exact changes _
    | adjust => exact changes _

theorem grab_outcome : Outcome context (.carry .grab) (grab context) := by
  rw [grab]
  cases resolved : context.resolve .stackObject with
  | none => exact .passes false
  | some object =>
    dsimp only
    by_cases guards : object ≠ context.owner ∧
        ((context.entity? .me).any fun entity => entity.carrying.isNone) = true ∧
        ((context.entity? .stackObject).any fun entity => entity.carriedBy.isNone) = true
    · rw [if_pos guards]
      obtain ⟨apart, free, loose⟩ := guards
      obtain ⟨holder, foundHolder, emptyHanded⟩ := (Option.any_eq_true ..).mp free
      obtain ⟨held, foundHeld, uncarried⟩ := (Option.any_eq_true ..).mp loose
      rw [Context.entity?, resolved] at foundHeld
      exact .grabs resolved apart (Context.get?_of_me foundHolder)
        (Option.isNone_iff_eq_none.mp emptyHanded) foundHeld (Option.isNone_iff_eq_none.mp uncarried)
    · exact (if_neg guards).symm ▸ .passes false

theorem drop_outcome : Outcome context (.carry .drop) (drop context) := by
  rw [drop]
  cases foundMe : context.entity? .me with
  | none => exact .passes false
  | some me =>
    cases resolved : context.resolve .carried with
    | none => exact .passes false
    | some object =>
      cases context.entity? .carried with
      | none => exact .passes false
      | some held =>
        have holds := Context.get?_of_me foundMe
        obtain ⟨carried, _⟩ := Context.alive_of_bind resolved
        rw [holds] at carried
        exact .drops resolved holds carried

theorem requestRemoval_outcome (flags : TargetFlags) :
    Outcome context (.removeObject flags) (requestRemoval flags context) := by
  rw [requestRemoval]
  cases resolved : context.resolve (targetOf flags.onStackObject) with
  | none => exact .passes true
  | some id =>
    dsimp only [Context.deferRemoval]
    by_cases asked : id ∈ context.removals
    · exact (if_pos asked).symm ▸ .passes true
    · rw [if_neg asked]
      refine .asks (List.forall_mem_singleton.mpr ?_)
      cases onObject : flags.onStackObject with
      | false =>
        rw [onObject] at resolved
        exact .inl (Context.alive_of_alive? resolved).1
      | true =>
        rw [onObject] at resolved
        exact .inr (Context.alive_of_bind resolved).1

theorem sendNotice_outcome (message : UInt16) :
    Outcome context (.notify message) (sendNotice message context) := by
  rw [sendNotice]
  cases (context.resolve .caller).or (context.resolve .me) with
  | none => exact .passes false
  | some entity => exact .notifies entity

/-- **A primitive ends in no other way.** -/
theorem run_outcome (action : Primitive) (resumed : Option UInt32) (context : Context) :
    Outcome context action (action.run resumed context) := by
  cases action with
  | sleep ticks => exact wait_outcome ticks resumed
  | expression lhs rhs op => exact evaluate_outcome lhs rhs op
  | randomNumber dest range => exact storeRandom_outcome dest range
  | playSound sound volume flags => exact startSound_outcome sound volume flags
  | stopAllSounds flags => exact stopSounds_outcome flags
  | animate animation duration flags => exact animateFor_outcome animation duration flags resumed
  | relationship op value => exact relate_outcome op value
  | carry op =>
    cases op with
    | grab => exact grab_outcome
    | drop => exact drop_outcome
  | setStackObject source => exact setStackObjectTo_outcome source
  | removeObject flags => exact requestRemoval_outcome flags
  | notify message => exact sendNotice_outcome message

end Primitive
end Lockstep
