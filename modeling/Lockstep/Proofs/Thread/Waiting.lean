import Lockstep.Proofs.Behavior.Checked
import Lockstep.Proofs.Primitive.Edited
import Lockstep.Proofs.Table.Keys

/-!
# Primitives that take a while

Sleeping and animating take as many ticks as their operands say (`Primitive.span?`). In each of them
the primitive gives way, and remembers how far it has come (`Primitive.progress`): sleeping counts
down, and animating counts up. In the tick after these the instruction takes its true target, and an
animation is over. One that takes no time is shown and stays. When the entity that is animated is
not there any more, the instruction takes its false target.

`Stay` is a thread at such an instruction, whatever frames lie below, and `Stay.goes` says what the
instruction does there.
-/

set_option autoImplicit false

namespace Lockstep

/-! ## What is remembered -/

namespace Primitive

/-- How many ticks a primitive takes that gives way. -/
def span? : Primitive → Option UInt16
  | .sleep ticks => some ticks
  | .animate _ duration _ => some duration
  | _ => none

/-- What is remembered of a primitive that has given way so many times. -/
def progress (action : Primitive) (times : Nat) : UInt32 :=
  match action with
  | .sleep ticks => ticks.toUInt32 - UInt32.ofNat times
  | _ => UInt32.ofNat times

/-- What a primitive resumes with when it has given way so many times. -/
def resumes (action : Primitive) (times : Nat) : Option UInt32 :=
  if times = 0 then none else some (action.progress times)

/-- The entity that is animated. -/
def animated? (owner : EntityId) (frame : StackFrame) : Primitive → Option EntityId
  | .animate _ _ flags => if flags.onStackObject then frame.stackObject else some owner
  | _ => none

/-- The entity that is animated is alive, if there is to be one. -/
def Attended (owner : EntityId) (frame : StackFrame) (entities : EntityTable) : Primitive → Prop
  | .animate animation duration flags =>
    ∃ target, animated? owner frame (.animate animation duration flags) = some target ∧
      entities.contains target = true
  | _ => True

/-- What is shown when a primitive is over: nothing any more, or what is to stay. -/
def remains : Primitive → Option AnimationState
  | .animate animation duration _ => if duration = 0 then some ⟨animation, 0, 0⟩ else none
  | _ => none

/-- The entities when a primitive is over that has given way. -/
def finale (action : Primitive) (owner : EntityId) (frame : StackFrame) (entities : EntityTable) :
    EntityTable :=
  match action.animated? owner frame with
  | some target => entities.modify target fun entity => { entity with animation := action.remains }
  | none => entities

end Primitive

/-- The tick with other entities. -/
def Underway.withEntities (underway : Underway) (entities : EntityTable) : Underway :=
  { underway with state := { underway.state with entities } }

/-- A thread at an instruction with a primitive that takes so many ticks. -/
structure Stay where
  id : ThreadId
  temps : Vector Int16 8
  /-- The frame as it is when the primitive is over. -/
  frame : StackFrame
  callers : List StackFrame
  instruction : Instruction
  action : Primitive
  span : UInt16

namespace Stay

/-- The thread when it has given way so many times. -/
def thread (stay : Stay) (times : Nat) : Thread :=
  ⟨stay.id, stay.temps, { stay.frame with pending := stay.action.resumes times } :: stay.callers⟩

/-- The thread is at the instruction, and the primitive is the one of that instruction. -/
structure Of (library : Library) (stay : Stay) : Prop where
  found : library.instruction? stay.frame.behavior stay.frame.pc = some stay.instruction
  decoded : stay.instruction.decodeOperand = .ok (.primitive stay.action)
  takes : stay.action.span? = some stay.span
  idle : stay.frame.pending = none

/-- The entity that is animated is alive, if there is to be one. -/
def Attended (stay : Stay) (underway : Underway) : Prop :=
  stay.action.Attended stay.id.owner stay.frame underway.state.entities

/-- The instruction takes one of its targets. -/
def leave (stay : Stay) (library : Library) (result : Bool) (underway : Underway) :
    Flow × Underway :=
  underway.land stay.id stay.temps
    (stay.frame.follow library stay.callers (stay.instruction.target result))

/-- The tick when the primitive is over, and nothing is shown of it any more but what is to stay. -/
def close (stay : Stay) (underway : Underway) : Underway :=
  underway.withEntities (stay.action.finale stay.id.owner stay.frame underway.state.entities)

/-- What the thread does when it has given way so many times. -/
structure Goes (stay : Stay) (library : Library) (times : Nat) (underway : Underway) : Prop where
  /-- It gives way as long as there are ticks left. -/
  yields : stay.Attended underway → times < stay.span.toNat →
    (Underway.step library stay.id (stay.thread times) underway).1 = .done .yielded
  /-- It takes its true target when they are over. -/
  closes : stay.Attended underway → times = stay.span.toNat →
    Underway.step library stay.id (stay.thread times) underway =
      stay.leave library true (stay.close underway)
  /-- It takes its false target when there is nobody who could be animated. -/
  fails : ¬ stay.Attended underway →
    Underway.step library stay.id (stay.thread times) underway = stay.leave library false underway

end Stay

namespace Primitive

/-! ## Counting -/

theorem getD_resumes_sleep (ticks : UInt16) (times : Nat) :
    ((sleep ticks).resumes times).getD ticks.toUInt32 = (sleep ticks).progress times := by
  cases times with
  | zero => exact (UInt32.sub_zero _).symm
  | succ times => rfl

theorem getD_resumes_animate (animation duration : UInt16) (flags : TargetFlags) (times : Nat) :
    ((animate animation duration flags).resumes times).getD 0 = UInt32.ofNat times := by
  cases times with
  | zero => rfl
  | succ times => rfl

/-- Sleeping has counted down to zero when all of its ticks are over. -/
theorem progress_sleep_eq_zero_iff {ticks : UInt16} {times : Nat} (bound : times ≤ ticks.toNat) :
    (sleep ticks).progress times = 0 ↔ times = ticks.toNat := by
  have small := ticks.toNat_lt
  rw [progress, UInt32.sub_eq_iff_eq_add, UInt32.zero_add, ← UInt32.toNat_inj]
  simp
  omega

theorem progress_sleep_succ (ticks : UInt16) (times : Nat) :
    (sleep ticks).progress times - 1 = (sleep ticks).progress (times + 1) := by
  have next : UInt32.ofNat (times + 1) = UInt32.ofNat times + 1 := UInt32.ofNat_add times 1
  rw [progress, progress, next]
  grind

/-- Animating has counted up to its duration when that is over. -/
theorem le_ofNat_iff {duration : UInt16} {times : Nat} (bound : times ≤ duration.toNat) :
    duration.toUInt32 ≤ UInt32.ofNat times ↔ times = duration.toNat := by
  have small := duration.toNat_lt
  have count : (UInt32.ofNat times).toNat = times := UInt32.toNat_ofNat_of_lt' (by
    show times < 2 ^ 32
    omega)
  rw [UInt32.le_iff_toNat_le, count, UInt16.toNat_toUInt32]
  omega

/-! ## Outcomes -/

section

variable {context : Context}

theorem resolve_eq (animation duration : UInt16) (flags : TargetFlags) :
    context.resolve (targetOf flags.onStackObject) =
      ((animate animation duration flags).animated? context.owner context.frame).bind
        context.alive? := by
  rw [targetOf, animated?]
  split <;> rfl

theorem resolve_of_attended {animation duration : UInt16} {flags : TargetFlags}
    (attended : (animate animation duration flags).Attended context.owner context.frame
      context.entities) :
    ∃ target, (animate animation duration flags).animated? context.owner context.frame =
        some target ∧ context.resolve (targetOf flags.onStackObject) = some target := by
  obtain ⟨target, animated, alive⟩ := attended
  refine ⟨target, animated, ?_⟩
  rw [resolve_eq animation duration, animated]
  exact if_pos alive

theorem resolve_of_unattended {animation duration : UInt16} {flags : TargetFlags}
    (unattended : ¬ (animate animation duration flags).Attended context.owner context.frame
      context.entities) : context.resolve (targetOf flags.onStackObject) = none := by
  rw [resolve_eq animation duration]
  refine Option.bind_eq_none_iff.mpr fun target animated => if_neg fun alive => ?_
  exact unattended ⟨target, animated, alive⟩

variable {action : Primitive} {span : UInt16} {times : Nat}

/-- A primitive gives way as long as there are ticks left. -/
theorem run_yields (takes : action.span? = some span)
    (attended : action.Attended context.owner context.frame context.entities)
    (left : times < span.toNat) :
    ∃ entities, action.run (action.resumes times) context =
      (.yield (action.progress (times + 1)), { context with entities }) := by
  cases action with
  | sleep ticks =>
    obtain rfl := Option.some.inj takes
    have counting : (sleep ticks).progress times ≠ 0 := fun done =>
      Nat.ne_of_lt left ((progress_sleep_eq_zero_iff (Nat.le_of_lt left)).mp done)
    refine ⟨context.entities, ?_⟩
    rw [run, wait, getD_resumes_sleep, if_neg counting, progress_sleep_succ]
  | animate animation duration flags =>
    obtain rfl := Option.some.inj takes
    obtain ⟨target, _, resolved⟩ := resolve_of_attended attended
    have counting : ¬ duration.toUInt32 ≤ UInt32.ofNat times := fun done =>
      Nat.ne_of_lt left ((le_ofNat_iff (Nat.le_of_lt left)).mp done)
    have lasting : duration ≠ 0 := by
      rintro rfl
      exact Nat.not_lt_zero times left
    have next : (animate animation duration flags).progress (times + 1) =
        UInt32.ofNat times + 1 := UInt32.ofNat_add times 1
    refine ⟨context.entities.modify target fun entity => { entity with
      animation := some ⟨animation, (UInt32.ofNat times).toUInt16, duration⟩ }, ?_⟩
    rw [run, animateFor, resolved]
    dsimp only
    rw [getD_resumes_animate, if_neg lasting, if_neg counting, next]
    rfl
  | _ => cases takes

/-- A primitive takes its true branch when all of its ticks are over. -/
theorem run_closes (takes : action.span? = some span)
    (attended : action.Attended context.owner context.frame context.entities) :
    action.run (action.resumes span.toNat) context =
      (.branch true, { context with
        entities := action.finale context.owner context.frame context.entities }) := by
  cases action with
  | sleep ticks =>
    obtain rfl := Option.some.inj takes
    have done : (sleep ticks).progress ticks.toNat = 0 :=
      (progress_sleep_eq_zero_iff (Nat.le_refl _)).mpr rfl
    rw [run, wait, getD_resumes_sleep, if_pos done]
    rfl
  | animate animation duration flags =>
    obtain rfl := Option.some.inj takes
    obtain ⟨target, animated, resolved⟩ := resolve_of_attended attended
    have done : duration.toUInt32 ≤ UInt32.ofNat duration.toNat :=
      (le_ofNat_iff (Nat.le_refl _)).mpr rfl
    rw [run, animateFor, resolved, finale, animated]
    dsimp only
    rw [getD_resumes_animate, if_pos done, remains]
    split
    · rfl
    · rfl
  | _ => cases takes

/-- When nobody is there who could be animated, the false branch is taken. -/
theorem run_unattended
    (unattended : ¬ action.Attended context.owner context.frame context.entities) :
    action.run (action.resumes times) context = (.branch false, context) := by
  cases action with
  | animate animation duration flags =>
    rw [run, animateFor, resolve_of_unattended unattended]
  | _ => exact absurd trivial unattended

end

end Primitive

/-! ## Instructions -/

namespace Stay

variable {stay : Stay} {library : Library} {underway : Underway} {times : Nat}

/-- What there is when the primitive is carried out after it has given way so many times. -/
def fetched (stay : Stay) (times : Nat) : Underway.Fetched :=
  ⟨stay.frame, stay.callers, stay.temps, stay.action.resumes times⟩

/-- The thread goes on as its primitive says, which changes entities and nothing else. -/
theorem step_of_run (of : stay.Of library)
    (known : underway.state.threads.contains stay.id = true) {entities : EntityTable} {exit : Exit}
    (ran : let fetched := stay.fetched times
      stay.action.run fetched.resumed (fetched.context stay.id underway) =
        (exit, { fetched.context stay.id underway with entities })) :
    Underway.step library stay.id (stay.thread times) underway =
      Underway.finish library stay.id stay.instruction stay.action.kind stay.frame stay.callers
        stay.temps exit (underway.withEntities entities) := by
  obtain ⟨found, decoded, _, idle⟩ := of
  have same : { stay.frame with pending := none } = stay.frame := by rw [← idle]
  have executed : Underway.step library stay.id (stay.thread times) underway =
      Underway.perform library stay.id (stay.fetched times) stay.instruction stay.action
        underway := by
    rw [Underway.step, thread]
    dsimp only
    rw [same, Underway.execute]
    dsimp only
    rw [Library.contains_of_instruction? found, found]
    dsimp only
    rw [decoded]
    rfl
  rw [executed, Underway.perform_eq]
  dsimp only at ran ⊢
  rw [ran]
  exact if_pos known

/-- **A thread at a primitive that takes a while gives way** as long as there are ticks left, and
nothing of it changes but how often it has. -/
theorem step_yields (of : stay.Of library)
    (found : underway.state.threads.get? stay.id = some (stay.thread times)) (attended : stay.Attended underway)
    (left : times < stay.span.toNat) :
    let outcome := Underway.step library stay.id (stay.thread times) underway
    outcome.1 = .done .yielded ∧
      outcome.2.state.threads.get? stay.id = some (stay.thread (times + 1)) := by
  let context := (stay.fetched times).context stay.id underway
  obtain ⟨entities, ran⟩ := @Primitive.run_yields context _ _ _ of.takes attended left
  rw [step_of_run of (Table.contains_of_get? found) ran]
  exact ⟨rfl, (Table.get?_modify_self ..).trans (congrArg (Option.map _) found)⟩

theorem goes (of : stay.Of library)
    (found : underway.state.threads.get? stay.id = some (stay.thread times)) :
    stay.Goes library times underway := by
  have known := Table.contains_of_get? found
  let context := (stay.fetched times).context stay.id underway
  constructor
  case yields => exact fun attended left => (step_yields of found attended left).1
  case closes =>
    rintro attended rfl
    exact step_of_run of known (@Primitive.run_closes context _ _ of.takes attended)
  case fails =>
    intro unattended
    exact step_of_run of known (@Primitive.run_unattended context _ times unattended)

end Stay
end Lockstep
