import Lockstep.Proofs.Thread.Becomes
import Lockstep.Proofs.Thread.Budget
import Lockstep.Proofs.Thread.Executions
import Lockstep.Proofs.Thread.Exits
import Lockstep.Proofs.Thread.Parts

/-!
# Turns are bounded

A turn executes no more instructions than its budget allows, an instruction leaves no more frames
than its thread has, and when the turn is over its thread is gone or has given way
(`Underway.runTurn_bounded`). This asks nothing of the state, which may come from any snapshot.
Threads may have no frames or more of them than calls can make, at places past the end of their
behaviors, and of behaviors that are not loaded.

`Underway.Proceeds` lists all that an instruction can do with its thread, together with the exits by
which frames are left. The thread is removed before any frame is left, or it gives way, or it goes
on with all the frames that have called, or frames are left one by one. Each bound is a property of
that list, and a turn has it since each of its instructions has it.
-/

set_option autoImplicit false

namespace Lockstep

/-- The innermost frame is in the middle of an instruction that has given way. -/
def Thread.Suspended (thread : Thread) : Prop :=
  ∃ top progress, thread.frames.head? = some top ∧ top.pending = some progress

/-- The frames of a thread are left one by one, and this is left of the thread. Each exit finds one
frame less than the one before it, and the first one finds them all. If the thread goes on, it has
lost one frame with each exit, and none without exits. -/
structure Thread.Sheds (thread : Thread) (exits : List FrameExit) (left : Option Thread) :
    Prop where
  each : ∀ index exit, exits[index]? = some exit →
    exit.frames.length + index = thread.frames.length
  most : exits.length ≤ thread.frames.length
  lost : ∀ later, left = some later → exits ≠ [] →
    later.frames.length + exits.length = thread.frames.length
  kept : ∀ later, left = some later → exits = [] → thread.frames.length ≤ later.frames.length

/-- Without exits, no frame may be lost. -/
theorem Thread.sheds_nothing {thread : Thread} {left : Option Thread}
    (kept : ∀ later, left = some later → thread.frames.length ≤ later.frames.length) :
    thread.Sheds [] left where
  each _ _ found := by simp at found
  most := Nat.zero_le _
  lost _ _ some := absurd rfl some
  kept later held _ := kept later held

namespace Underway

/-- What an instruction does with its thread, and the exits by which it leaves frames. -/
inductive Proceeds (library : Library) (id : ThreadId) (before : Underway) (thread : Thread) :
    List FrameExit → Flow × Underway → Prop where
  /-- There is no frame. -/
  | completes : thread.frames = [] → Proceeds library id before thread [] (before.complete id true)
  /-- The behavior of the innermost frame is not there, or nothing has the opcode. -/
  | refuses {frame : StackFrame} {callers : List StackFrame} {fault : ThreadFault} :
      thread.frames = frame :: callers →
        (fault = .missingBehavior frame.behavior ∨
          ∃ opcode, fault = .unknownPrimitive frame.place opcode) →
          Proceeds library id before thread [] (before.abort id fault)
  /-- A primitive has removed the thread together with its owner. -/
  | vanishes {acted : Underway} :
      before.state.Acts id acted.state → acted.state.threads.get? id = none →
        Proceeds library id before thread [] (.done .removed, acted)
  /-- The innermost frame gives way. -/
  | yields {acted : Underway} {frame top : StackFrame} {callers : List StackFrame}
      {progress : UInt32} (temps : Vector Int16 8) :
      before.state.Acts id acted.state → acted.state.threads.contains id = true →
        thread.frames = frame :: callers → top.pending = some progress →
          Proceeds library id before thread []
            (.done .yielded, acted.putThread id temps (top :: callers))
  /-- The innermost frame goes on, or the one that it has called. -/
  | continues {acted : Underway} {frame : StackFrame} {callers above : List StackFrame}
      (temps : Vector Int16 8) :
      before.state.Acts id acted.state → thread.frames = frame :: callers → above ≠ [] →
        Proceeds library id before thread []
          (acted.land id temps ⟨[], .resumed (above ++ callers)⟩)
  /-- The innermost frame is left, and maybe others are after it. -/
  | leaves {acted : Underway} {frame left : StackFrame} {callers : List StackFrame}
      {resolution : Resolution} {exits : List FrameExit} {unwinding : Unwinding}
      (temps : Vector Int16 8) :
      before.state.Acts id acted.state → thread.frames = frame :: callers →
        FrameExit.Unwinds library ⟨left :: callers, resolution⟩ exits unwinding →
          Proceeds library id before thread (⟨left :: callers, resolution⟩ :: exits)
            (acted.land id temps unwinding)

variable {library : Library} {id : ThreadId} {before acted underway : Underway} {thread : Thread}
  {exits : List FrameExit} {outcome after : Flow × Underway} {frame left : StackFrame}
  {callers : List StackFrame}

/-! ## All that an instruction can do -/

theorem unwind_proceeds (acts : before.state.Acts id acted.state)
    (stack : thread.frames = frame :: callers) (left : StackFrame) (resolution : Resolution)
    (temps : Vector Int16 8) :
    ∃ exits, Proceeds library id before thread exits
      (acted.land id temps (unwind library left.catchErrors callers resolution)) := by
  obtain ⟨rest, unwinds⟩ := (@FrameExit.unwinds_iff library ⟨left :: callers, resolution⟩ _).mpr rfl
  exact ⟨_, .leaves temps acts stack unwinds⟩

theorem follow_proceeds (acts : before.state.Acts id acted.state)
    (stack : thread.frames = frame :: callers) (left : StackFrame) (target : UInt8)
    (temps : Vector Int16 8) :
    ∃ exits, Proceeds library id before thread exits
      (acted.land id temps (left.follow library callers target)) := by
  rw [StackFrame.follow]
  cases left.aim library target with
  | jump index => exact ⟨[], .continues temps acts stack (List.cons_ne_nil (left.jump index) [])⟩
  | leave resolution => exact unwind_proceeds acts stack left resolution temps

theorem Outcome.proceeds (outcome : Outcome library id before thread after) :
    ∃ exits, Proceeds library id before thread exits after := by
  have idle : before.state.Acts id before.state := .idle before.state
  cases outcome with
  | completes => exact ⟨[], .completes rfl⟩
  | refuses refusal =>
    refine ⟨[], .refuses rfl ?_⟩
    cases refusal with
    | missingBehavior => exact .inl rfl
    | unknownOpcode => exact .inr ⟨_, rfl⟩
    | missingCallee => exact .inr ⟨_, rfl⟩
  | @fails _ temps frame _ _ failure => exact unwind_proceeds idle rfl frame _ temps
  | @calls _ temps frame _ _ request =>
    let above : List StackFrame := [frame.callee request, { frame with pending := none }]
    exact ⟨[], @Proceeds.continues library id before _ before frame _ above temps idle rfl
      (List.cons_ne_nil _ _)⟩
  | vanishes performs gone => exact ⟨[], .vanishes performs.acts gone⟩
  | branches performs remains => exact follow_proceeds performs.acts rfl _ _ _
  | @faults _ _ _ _ _ _ _ context performs remains =>
    exact unwind_proceeds performs.acts rfl context.frame _ _
  | yields performs remains => exact ⟨[], .yields _ performs.acts remains rfl rfl⟩

/-- **An instruction does nothing else**, whatever its thread and whatever is under way. -/
theorem step_proceeds (library : Library) (id : ThreadId) (thread : Thread) (underway : Underway) :
    ∃ exits, Proceeds library id underway thread exits (step library id thread underway) :=
  (step_outcome library id thread underway).proceeds

/-! ## What an instruction leaves -/

/-- **An instruction leaves frames one by one**, and no more of them than there are. -/
theorem Proceeds.sheds (proceeds : Proceeds library id before thread exits outcome) :
    thread.Sheds exits (outcome.2.state.threads.get? id) := by
  have removed (state : State) :
      thread.Sheds [] ((state.removeThread id).threads.get? id) :=
    Thread.sheds_nothing fun later held => absurd held (get?_removeThread_ne_some state id later)
  cases proceeds with
  | completes empty => exact removed before.state
  | refuses stack fault => exact removed before.state
  | vanishes acts gone =>
    apply Thread.sheds_nothing
    intro later held
    cases gone.symm.trans held
  | yields temps acts present stack pending =>
    apply Thread.sheds_nothing
    intro later held
    obtain ⟨thread, rfl⟩ := get?_of_putThread held
    rw [stack]
    exact Nat.le_refl _
  | @continues _ _ callers above temps acts stack some =>
    apply Thread.sheds_nothing
    intro later held
    obtain ⟨frames, own, resumed, rfl⟩ := get?_land held
    cases resumed
    have one : 0 < above.length := List.length_pos_iff.mpr some
    simp only [stack, List.length_cons, List.length_append]
    omega
  | leaves temps acts stack unwinds =>
    constructor
    case each =>
      intro index exit found
      rw [stack]
      exact unwinds.length_frames index exit found
    case most =>
      rw [stack]
      exact unwinds.length_le (List.cons_ne_nil _ _)
    case lost =>
      intro later held _
      obtain ⟨frames, own, resumed, rfl⟩ := get?_land held
      rw [stack]
      exact unwinds.length_resumed resumed
    case kept =>
      intro later _ none
      cases none

/-- A thread that has landed goes on, or is removed. -/
theorem land_clears {temps : Vector Int16 8} {unwinding : Unwinding} {ending : TurnEnd}
    (done : (acted.land id temps unwinding).1 = .done ending) :
    (acted.land id temps unwinding).2.state.threads.get? id = none := by
  obtain ⟨caught, landing⟩ := unwinding
  rw [land] at done ⊢
  cases landing with
  | resumed frames => cases done
  | completed result => exact get?_removeThread acted.state id
  | aborted fault => exact get?_removeThread acted.state id

/-- An instruction that ends the turn removes the thread, or gives way. -/
theorem Proceeds.clears (proceeds : Proceeds library id before thread exits outcome)
    {ending : TurnEnd} (done : outcome.1 = .done ending) :
    outcome.2.state.threads.get? id = none ∨
      ending = .yielded ∧
        ∃ later, outcome.2.state.threads.get? id = some later ∧ later.Suspended := by
  cases proceeds with
  | completes empty => exact .inl (get?_removeThread before.state id)
  | refuses stack fault => exact .inl (get?_removeThread before.state id)
  | vanishes acts gone => exact .inl gone
  | @yields acted frame top callers progress temps acts present stack pending =>
    obtain ⟨thread, found⟩ := Table.contains_iff.mp present
    have held := get?_putThread found temps (top :: callers)
    exact .inr ⟨(Flow.done.inj done).symm, _, held, top, progress, rfl, pending⟩
  | continues temps acts stack some => exact .inl (land_clears done)
  | leaves temps acts stack unwinds => exact .inl (land_clears done)

/-! ## Turns -/

/-- When a turn is over, its thread is gone or has given way. -/
theorem Turn.clears {budget : UInt32} {count : Nat} {executed : List (Thread × Underway)}
    {outcome : TurnEnd × Underway} (turn : Turn library budget id count underway executed outcome) :
    outcome.2.state.threads.get? id = none ∨
      outcome.1 = .yielded ∧
        ∃ left, outcome.2.state.threads.get? id = some left ∧ left.Suspended := by
  induction turn with
  | absent gone => exact .inl gone
  | @exhausted now present => exact .inl (get?_removeThread now.state id)
  | @ends _ now after thread ending found stepped =>
    obtain ⟨exits, proceeds⟩ := step_proceeds library id thread now
    rw [stepped] at proceeds
    exact proceeds.clears rfl
  | goesOn found stepped _ inductionHypothesis => exact inductionHypothesis

/-- **A turn is bounded and ends cleanly, whatever the state.** It executes the instructions that are
listed, of which there are at most as many as the settings say, or one if they say zero. In every
instruction, of whatever thread, frames are left one by one, with at most as many exits as there are
frames, and a thread that goes on has lost one frame with each of them. When the turn is over, the
thread is not in the table any more, or the turn has ended because the thread gave way, and its
innermost frame is in the middle of an instruction. -/
theorem runTurn_bounded (library : Library) (settings : Settings) (id : ThreadId)
    (underway : Underway) :
    let budget := settings.turnBudget
    let executed := executions library id budget.toNat underway
    let outcome := runTurn library budget id underway
    Turn library budget id budget.toNat underway executed outcome ∧
      executed.length ≤ max settings.instructionBudget.toNat 1 ∧
      (∀ thread now, ∃ exits,
        Proceeds library id now thread exits (step library id thread now) ∧
          thread.Sheds exits ((step library id thread now).2.state.threads.get? id)) ∧
      (outcome.2.state.threads.get? id = none ∨
        outcome.1 = .yielded ∧
          ∃ left, outcome.2.state.threads.get? id = some left ∧ left.Suspended) := by
  intro budget executed outcome
  have turn : Turn library budget id budget.toNat underway executed outcome :=
    turn_executions library budget id budget.toNat underway
  refine ⟨turn, ?_, fun thread now => ?_, turn.clears⟩
  · rw [← settings.toNat_turnBudget]
    exact turn.length_le
  · obtain ⟨exits, proceeds⟩ := step_proceeds library id thread now
    exact ⟨exits, proceeds, proceeds.sheds⟩

/-- A library with two behaviors. The first returns at once. The second waits when what it has
called was of no avail. -/
def strayLibrary : Library where
  behaviors := (Table.empty.insert 300 ⟨300, "return", 0, 0,
    [.ofOperand (.primitive (.sleep 0)) targetTrue targetFalse]⟩).insert 301 ⟨301, "wait", 0, 0,
      [.ofOperand (.primitive (.sleep 0)) targetTrue 1,
        .ofOperand (.primitive (.sleep 3)) targetTrue targetFalse]⟩

/-- A thread with more frames than calls could give it. Below those that return there is one of a
behavior that is not loaded, past its end, and it catches errors. -/
def strayThread : Thread where
  id := ⟨⟨1⟩, 1⟩
  temps := Vector.replicate 8 0
  frames := List.replicate 69 (.new 300 none none (Vector.replicate 4 0)) ++
    [{ StackFrame.new 999 none none (Vector.replicate 4 0) with pc := 9, catchErrors := true },
      .new 301 none none (Vector.replicate 4 0)]

/-- In its first instruction the thread leaves seventy of its seventy-one frames, and in the second
it gives way. -/
theorem runTurn_bounded_stray :
    let settings : Settings := ⟨2, default⟩
    let id : ThreadId := ⟨⟨1⟩, 1⟩
    let state : State := { State.empty with threads := Table.empty.insert id strayThread }
    let start : Underway := ⟨state, Random.Stream.ofSeed 7, Effects.none⟩
    let outcome := runTurn strayLibrary settings.turnBudget id start
    (executions strayLibrary id settings.turnBudget.toNat start).length ≤ 2 ∧
      (∃ exits, Proceeds strayLibrary id start strayThread exits
          (step strayLibrary id strayThread start) ∧ exits.length = 70) ∧
      outcome.1 = .yielded ∧
      ∃ left, outcome.2.state.threads.get? id = some left ∧ left.Suspended := by
  intro settings id state start outcome
  obtain ⟨_, few, instructions, ends⟩ := runTurn_bounded strayLibrary settings id start
  obtain ⟨exits, proceeds, sheds⟩ := instructions strayThread start
  let later : Thread :=
    ⟨id, Vector.replicate 8 0, [(StackFrame.new 301 none none (Vector.replicate 4 0)).jump 1]⟩
  have goes : (step strayLibrary id strayThread start).2.state.threads.get? id = some later := by
    decide +kernel
  have seventy : exits.length = 70 := by
    by_cases some : exits = []
    · exact absurd (sheds.kept later goes some) (by decide)
    · have lost : 1 + exits.length = 71 := sheds.lost later goes some
      omega
  have there : ¬ outcome.2.state.threads.get? id = none := by decide +kernel
  exact ⟨few, ⟨exits, proceeds, seventy⟩, ends.resolve_left there⟩

end Underway
end Lockstep
