import Lockstep.Primitive.Context

/-!
# What primitives do

`Primitive.run` carries a primitive out and says how it ended: on one of the two branches of the
instruction, by giving way until the next tick, or with a fault. A primitive that gives way is
run again in the next tick with the progress that it left. `Primitive.dispatch` finds the primitive
to carry out by its kind.
-/

set_option autoImplicit false

namespace Lockstep

/-- How a primitive ended. -/
inductive Exit where
  | branch (result : Bool)
  /-- Give way until the next tick, and remember how far it has come. -/
  | yield (progress : UInt32)
  | fault (fault : PrimitiveFault)
  deriving DecidableEq, Inhabited

/-- The least value of a relationship. -/
def relationshipMin : Int16 := -100

/-- The greatest value of a relationship. -/
def relationshipMax : Int16 := 100

namespace Primitive

/-- The entity that a primitive acts on by its flags. -/
def targetOf (onStackObject : Bool) : Target := if onStackObject then .stackObject else .me

/-- Go on with the result of something that may fail, in the same context when it does. -/
def attempt {α : Type} (context : Context) (result : Except PrimitiveFault α)
    (next : α → Exit × Context) : Exit × Context :=
  match result with
  | .ok value => next value
  | .error fault => (.fault fault, context)

/-! ## Waiting and choosing -/

/-- Give way once for every tick that is left. -/
def wait (ticks : UInt16) (resumed : Option UInt32) (context : Context) : Exit × Context :=
  let remaining := resumed.getD ticks.toUInt32
  if remaining = 0 then (.branch true, context) else (.yield (remaining - 1), context)

/-- Choose the live entity that a value names, or none for zero. -/
def setStackObjectTo (source : VarRef) (context : Context) : Exit × Context :=
  attempt context (context.read source) fun value =>
    if value = 0 then (.branch true, context.setStackObject none)
    else
      match context.liveEntity? value with
      | some id => (.branch true, context.setStackObject (some id))
      | none => (.branch false, context)

/-! ## Expressions -/

/-- What a comparison says. -/
def compareValues (op : ExpressionOp) (lhs rhs : Int16) : Bool :=
  match op with
  | .less => lhs < rhs
  | .greater => rhs < lhs
  | .equal => lhs = rhs
  | .lessOrEqual => lhs ≤ rhs
  | .greaterOrEqual => rhs ≤ lhs
  | .notEqual => lhs ≠ rhs
  | _ => false

/-- The value that an operator gives. Numbers wrap around, and division goes toward zero. -/
def combineValues (op : ExpressionOp) (lhs rhs : Int16) : Except PrimitiveFault Int16 :=
  match op with
  | .add => .ok (lhs + rhs)
  | .sub => .ok (lhs - rhs)
  | .mul => .ok (lhs * rhs)
  | .div => if rhs = 0 then .error .divideByZero else .ok (lhs / rhs)
  | .mod => if rhs = 0 then .error .divideByZero else .ok (lhs % rhs)
  | .and => .ok (lhs &&& rhs)
  | .or => .ok (lhs ||| rhs)
  | _ => .ok rhs

/-- Store a value in a variable and take the true branch. -/
def store (reference : VarRef) (value : Int16) (context : Context) : Exit × Context :=
  attempt context (context.write reference value) fun context => (.branch true, context)

/-- Compute or compare. An assignment does not read the variable that it sets. -/
def evaluate (lhs rhs : VarRef) (op : ExpressionOp) (context : Context) : Exit × Context :=
  attempt context (context.read rhs) fun right =>
    if op = .assign then store lhs right context
    else
      attempt context (context.read lhs) fun left =>
        if op.isComparison then (.branch (compareValues op left right), context)
        else attempt context (combineValues op left right) fun value => store lhs value context

/-- Store a random number below a bound. The number is drawn before the variable is looked at. -/
def storeRandom (dest range : VarRef) (context : Context) : Exit × Context :=
  attempt context (context.read range) fun bound =>
    if bound ≤ 0 then (.fault (.invalidRange bound), context)
    else
      let (value, random) := context.random.below bound.toInt.toNat
      store dest (Int16.ofNat value) { context with random }

/-! ## Sounds and animations -/

/-- Start a sound. -/
def startSound (sound : UInt32) (volume : UInt8) (flags : SoundFlags) (context : Context) :
    Exit × Context :=
  match context.resolve (targetOf flags.soundsOnStackObject) with
  | none => (.branch false, context)
  | some owner =>
    let (channel, context) := context.playSound owner sound volume flags.loops
    (.branch true, context.addEvent ("sound " ++ hexNumeral sound.toNat ++ " on channel " ++
      toString channel.number.toNat ++ " for " ++ owner.text))

/-- Stop all sounds of the stack object or the caller. -/
def stopSounds (flags : TargetFlags) (context : Context) : Exit × Context :=
  match context.resolve (if flags.onStackObject then .stackObject else .caller) with
  | none => (.branch true, context)
  | some owner =>
    let (released, context) := context.stopSounds owner
    if released = 0 then (.branch true, context)
    else (.branch true, context.addEvent ("released " ++ toString released ++ " sound(s) held by " ++
      owner.text))

/-- Show an animation, and give way until it is over. One that takes no time is kept. -/
def animateFor (animation duration : UInt16) (flags : TargetFlags) (resumed : Option UInt32)
    (context : Context) : Exit × Context :=
  match context.resolve (targetOf flags.onStackObject) with
  | none => (.branch false, context)
  | some id =>
    let showing (state : Option AnimationState) : Context :=
      context.modifyEntity id fun entity => { entity with animation := state }
    let elapsed := resumed.getD 0
    if duration = 0 then (.branch true, showing (some ⟨animation, 0, 0⟩))
    else if duration.toUInt32 ≤ elapsed then (.branch true, showing none)
    else (.yield (elapsed + 1), showing (some ⟨animation, elapsed.toUInt16, duration⟩))

/-! ## Relationships and things carried -/

/-- Store what the owner feels about another entity, within its bounds. -/
def setRelationship (other : EntityId) (value : Int) (context : Context) : Context :=
  let bounded := max relationshipMin.toInt (min relationshipMax.toInt value)
  context.modifyEntity context.owner fun entity =>
    { entity with relationships := entity.relationships.insert other (Int16.ofInt bounded) }

/-- Read or change what the owner feels about the stack object. -/
def relate (op : RelationshipOp) (reference : VarRef) (context : Context) : Exit × Context :=
  match context.resolve .stackObject with
  | none => (.branch false, context)
  | some other =>
    let current := ((context.entity? .me).bind fun entity => entity.relationships.get? other).getD 0
    match op with
    | .get => store reference current context
    | .set => attempt context (context.read reference) fun value =>
      (.branch true, setRelationship other value.toInt context)
    | .adjust => attempt context (context.read reference) fun value =>
      (.branch true, setRelationship other (current.toInt + value.toInt) context)

/-- Pick the stack object up, if both hands are free: the owner's, and of anyone who could hold
the object. -/
def grab (context : Context) : Exit × Context :=
  match context.resolve .stackObject with
  | none => (.branch false, context)
  | some object =>
    let free := (context.entity? .me).any fun entity => entity.carrying.isNone
    let loose := (context.entity? .stackObject).any fun entity => entity.carriedBy.isNone
    if object ≠ context.owner ∧ free ∧ loose then
      let owner := context.owner
      let context := context.modifyEntity owner fun entity => { entity with carrying := some object }
      let context := context.modifyEntity object fun entity => { entity with carriedBy := some owner }
      (.branch true, context.addEvent (owner.text ++ " picked up " ++ object.text))
    else (.branch false, context)

/-- Put down what the owner carries, where the owner is. -/
def drop (context : Context) : Exit × Context :=
  match context.entity? .me, context.resolve .carried, context.entity? .carried with
  | some me, some object, some held =>
    let context := context.modifyEntity object fun entity =>
      { entity with carriedBy := none, position := me.position }
    let context := context.modifyEntity context.owner fun entity => { entity with carrying := none }
    (.branch true, context.addEvent (context.owner.text ++ " dropped " ++ held.id.text))
  | _, _, _ => (.branch false, context)

/-! ## Removal and messages -/

/-- Ask for the owner or the stack object to be removed. -/
def requestRemoval (flags : TargetFlags) (context : Context) : Exit × Context :=
  match context.resolve (targetOf flags.onStackObject) with
  | none => (.branch true, context)
  | some id => (.branch true, context.deferRemoval id)

/-- Send a message to the client of the caller, or of the owner when no caller is alive. -/
def sendNotice (message : UInt16) (context : Context) : Exit × Context :=
  match (context.resolve .caller).or (context.resolve .me) with
  | none => (.branch false, context)
  | some entity => (.branch true, context.addNotice ⟨entity, message⟩)

/-- Carry a primitive out. -/
def run (action : Primitive) (resumed : Option UInt32) (context : Context) : Exit × Context :=
  match action with
  | .sleep ticks => wait ticks resumed context
  | .expression lhs rhs op => evaluate lhs rhs op context
  | .randomNumber dest range => storeRandom dest range context
  | .playSound sound volume flags => startSound sound volume flags context
  | .stopAllSounds flags => stopSounds flags context
  | .animate animation duration flags => animateFor animation duration flags resumed context
  | .relationship op value => relate op value context
  | .carry .grab => grab context
  | .carry .drop => drop context
  | .setStackObject source => setStackObjectTo source context
  | .removeObject flags => requestRemoval flags context
  | .notify message => sendNotice message context

/-- Carry out the primitive of a kind with an operand, which has to be one for it. -/
def dispatch (kind : PrimitiveKind) (operand : Operand) (resumed : Option UInt32)
    (context : Context) : Exit × Context :=
  match operand with
  | .primitive action =>
    if action.kind = kind then action.run resumed context
    else (.fault (.operandMismatch kind), context)
  | .call _ => (.fault (.operandMismatch kind), context)

/-- A primitive is carried out as one of its own kind. -/
@[simp] theorem dispatch_self (action : Primitive) (resumed : Option UInt32) (context : Context) :
    dispatch action.kind (.primitive action) resumed context = action.run resumed context :=
  if_pos rfl

end Primitive
end Lockstep
