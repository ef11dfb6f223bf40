import Lockstep.Proofs.Machine.Chronicle
import Lockstep.Proofs.State.Births
import Lockstep.Proofs.Thread.Becomes
import Lockstep.Proofs.Thread.Parts
import Lockstep.Proofs.Tick.Parked

/-!
# What threads and frames have for themselves

Nobody but a thread itself changes its frames and its temporary values, and nobody but a frame
itself its variables. The turn of a thread leaves every other thread as it is, unless it removes the
owner. And a frame that has called a behavior is the same frame when control comes back to it,
however many turns and ticks later that is: all that the called behavior decides about it is which
target of the call it goes on at (`Machine.history_private`).

From one state to the next a thread stays as it is or goes on by one instruction
(`State.Continues`). While something that a frame has called is running, an instruction either keeps
the frame where it lies, or lets it go on, or leaves it, too (`Thread.Becomes.above`).
-/

set_option autoImplicit false

namespace Lockstep

variable {library : Library} {settings : Settings} {id : ThreadId}

/-! ## Frames below -/

/-- Something that a frame has called is running: other frames lie on it. -/
def Thread.Above (base : StackFrame) (callers : List StackFrame) (thread : Thread) : Prop :=
  ∃ callees, callees ≠ [] ∧ thread.frames = callees ++ base :: callers

theorem Thread.Above.depth {base : StackFrame} {callers : List StackFrame} {thread : Thread}
    (above : thread.Above base callers) : callers.length + 1 < thread.frames.length := by
  obtain ⟨callees, running, frames⟩ := above
  have more := List.length_pos_of_ne_nil running
  rw [frames, List.length_append, List.length_cons]
  omega

/-- A frame goes on after a call, at a target of the instruction that it is at. -/
def Thread.Resumes (library : Library) (base : StackFrame) (callers : List StackFrame)
    (thread : Thread) : Prop :=
  ∃ instruction result, library.instruction? base.behavior base.pc = some instruction ∧
    thread.frames = base.jump (instruction.target result) :: callers

/-- **What was called runs on, or control comes back**, or the frame that called it is left. -/
theorem Thread.Becomes.above {before after : Thread} {base : StackFrame}
    {callers : List StackFrame} (becomes : before.Becomes library after)
    (above : before.Above base callers) :
    after.Above base callers ∨ after.Resumes library base callers ∨
      after.frames.length ≤ callers.length := by
  obtain ⟨callees, running, frames⟩ := above
  obtain ⟨top, others, rfl⟩ := List.exists_cons_of_ne_nil running
  cases becomes with
  | @works _ _ _ frame below later pc locals params stackObject pending =>
    obtain ⟨rfl, rfl⟩ := List.cons.inj frames
    exact .inl ⟨{ frame with pc, locals, params, stackObject, pending } :: others,
      List.cons_ne_nil _ _, rfl⟩
  | @calls _ _ _ callee frame below loaded =>
    obtain ⟨rfl, rfl⟩ := List.cons.inj frames
    exact .inl ⟨callee :: { frame with pending := none } :: others, List.cons_ne_nil _ _, rfl⟩
  | @returns _ kept _ left rest frame instruction later result leaves found =>
    have back (same : frame :: rest = base :: callers) : Resumes library base callers
        ⟨kept, later, frame.jump (instruction.target result) :: rest⟩ := by
      obtain ⟨rfl, rfl⟩ := List.cons.inj same
      exact ⟨instruction, result, found, rfl⟩
    obtain ⟨stay, _, remain⟩ | ⟨more, _, gone⟩ := List.append_eq_append_iff.mp frames
    · cases stay with
      | nil => exact .inr (.inl (back remain))
      | cons first stay =>
        obtain ⟨rfl, rfl⟩ := List.cons.inj remain
        exact .inl ⟨_ :: stay, List.cons_ne_nil _ _, rfl⟩
    · cases more with
      | nil => exact .inr (.inl (back gone.symm))
      | cons first more =>
        obtain ⟨_, below⟩ := List.cons.inj gone
        refine .inr (.inr ?_)
        rw [below, List.append_eq, List.length_append]
        exact Nat.le_add_left _ _

/-- A thread that has got one frame more has called a behavior. -/
theorem Thread.Becomes.above_of_deeper {before later : Thread} {frame : StackFrame}
    {callers : List StackFrame} (becomes : before.Becomes library later)
    (frames : before.frames = frame :: callers)
    (deeper : callers.length + 1 < later.frames.length) :
    later.Above { frame with pending := none } callers := by
  cases becomes with
  | works later pc locals params stackObject pending =>
    obtain ⟨rfl, rfl⟩ := List.cons.inj frames
    exact absurd deeper (Nat.lt_irrefl _)
  | @calls _ _ _ callee _ _ loaded =>
    obtain ⟨rfl, rfl⟩ := List.cons.inj frames
    exact ⟨[callee], List.cons_ne_nil _ _, rfl⟩
  | @returns _ _ _ left rest other instruction later result leaves found =>
    have depth := congrArg List.length frames
    rw [List.length_append] at depth
    simp only [List.length_cons] at depth deeper
    omega

/-! ## From one state to the next -/

/-- A thread that is there in both states has stayed as it was, or gone on by one instruction. -/
def State.Continues (library : Library) (id : ThreadId) (before after : State) : Prop :=
  ∀ thread later, before.threads.get? id = some thread → after.threads.get? id = some later →
    later = thread ∨ thread.Becomes library later

namespace State

variable {before after : State}

theorem continues_of_shrinks (shrinks : before.threads.Shrinks after.threads) :
    before.Continues library id after := fun _ later found held =>
  .inl (Option.some.inj ((shrinks id later held).symm.trans found))

/-- A thread that is started has the next number. -/
theorem Starts.continues {most : Nat} (starts : before.Starts after most)
    (apart : id.seq ≠ before.nextThreadSeq + 1) : before.Continues library id after := by
  cases starts with
  | nobody shrinks counter => exact continues_of_shrinks shrinks
  | somebody catchless threads counter =>
    intro thread later found held
    rw [threads, Table.get?_insert, if_neg fun same => apart (congrArg ThreadId.seq same)] at held
    exact .inl (Option.some.inj (held.symm.trans found))

theorem Advances.continues (advances : before.Advances library settings after)
    (apart : id.seq ≠ before.nextThreadSeq + 1) : before.Continues library id after := by
  cases advances with
  | rest => exact continues_of_shrinks (.refl _)
  | command underway command =>
    exact (Underway.starts_applyCommand library settings underway command).continues apart
  | @instruct underway own running known =>
    intro thread later found held
    by_cases here : id = own
    · subst here
      obtain rfl := Option.some.inj (known.symm.trans found)
      exact .inr (Underway.step_becomes held)
    · have same := Underway.spares_step own running underway id later here held
      exact .inl (Option.some.inj (same.symm.trans found))
  | stop _ own => exact continues_of_shrinks (ThreadTable.shrinks_erase before.threads own)
  | finish _ tick => exact continues_of_shrinks (.refl _)

theorem Moves.continues (moves : before.Moves library settings after)
    (apart : id.seq ≠ before.nextThreadSeq + 1) : before.Continues library id after := by
  cases moves with
  | advance advances => exact advances.continues apart
  | spawn kind name template => exact (before.starts_spawn kind name template).continues apart
  | despawn gone => exact continues_of_shrinks (shrinks_despawn gone)

/-- While something that a frame has called is running, and until control comes back to the frame,
the frame lies where it was. -/
theorem resumes_of_chain {base : StackFrame} {callers : List StackFrame} {start : State}
    {during : List State} {last : State}
    (chain : (start :: (during ++ [last])).IsChain (Continues library id)) {thread : Thread}
    (found : start.threads.get? id = some thread) (above : thread.Above base callers)
    (deeper : ∀ state ∈ during, ∃ thread, state.threads.get? id = some thread ∧
      callers.length + 1 < thread.frames.length) {final : Thread}
    (held : last.threads.get? id = some final)
    (back : final.frames.length = callers.length + 1) :
    (∀ state ∈ during, ∃ thread, state.threads.get? id = some thread ∧
      thread.Above base callers) ∧ final.Resumes library base callers := by
  induction during generalizing start thread with
  | nil =>
    have continues := (List.isChain_cons_cons.mp chain).1
    refine ⟨fun _ member => absurd member List.not_mem_nil, ?_⟩
    obtain rfl | becomes := continues thread final found held
    · exact absurd back (Nat.ne_of_gt above.depth)
    · obtain still | resumes | left := becomes.above above
      · exact absurd back (Nat.ne_of_gt still.depth)
      · exact resumes
      · exact absurd (back ▸ left) (Nat.not_succ_le_self _)
  | cons next rest inductionHypothesis =>
    obtain ⟨continues, chain⟩ := List.isChain_cons_cons.mp chain
    obtain ⟨⟨later, there, depth⟩, deeper⟩ := List.forall_mem_cons.mp deeper
    have still : later.Above base callers := by
      obtain rfl | becomes := continues thread later found there
      · exact above
      · obtain above | ⟨_, _, _, frames⟩ | left := becomes.above above
        · exact above
        · rw [frames] at depth
          exact absurd depth (Nat.lt_irrefl _)
        · exact absurd (Nat.lt_of_lt_of_le depth left) (Nat.not_lt.mpr (Nat.le_succ _))
    obtain ⟨lies, resumes⟩ := inductionHypothesis chain there still deeper
    exact ⟨List.forall_mem_cons.mpr ⟨⟨later, there, still⟩, lies⟩, resumes⟩

/-- So it is from the call on. -/
theorem resumes_of_call {thread : Thread} {frame : StackFrame} {callers : List StackFrame}
    {before last : State} {during : List State}
    (chain : (before :: (during ++ [last])).IsChain (Continues library id))
    (found : before.threads.get? id = some thread) (frames : thread.frames = frame :: callers)
    (calling : during ≠ [])
    (deeper : ∀ state ∈ during, ∃ thread, state.threads.get? id = some thread ∧
      callers.length + 1 < thread.frames.length) {final : Thread}
    (held : last.threads.get? id = some final)
    (back : final.frames.length = callers.length + 1) :
    (∀ state ∈ during, ∃ thread, state.threads.get? id = some thread ∧
      thread.Above { frame with pending := none } callers) ∧
      final.Resumes library { frame with pending := none } callers := by
  obtain ⟨next, rest, rfl⟩ := List.exists_cons_of_ne_nil calling
  obtain ⟨continues, chain⟩ := List.isChain_cons_cons.mp chain
  obtain ⟨⟨called, there, depth⟩, deeper⟩ := List.forall_mem_cons.mp deeper
  have above : called.Above { frame with pending := none } callers := by
    obtain rfl | becomes := continues _ called found there
    · rw [frames] at depth
      exact absurd depth (Nat.lt_irrefl _)
    · exact becomes.above_of_deeper frames depth
  obtain ⟨lies, resumes⟩ := resumes_of_chain chain there above deeper held back
  exact ⟨List.forall_mem_cons.mpr ⟨⟨called, there, above⟩, lies⟩, resumes⟩

end State

/-! ## Histories -/

namespace Machine

theorem history_listsSound (operations : List Operation) :
    ∀ state ∈ State.empty :: passed library settings operations, state.ListsSound := by
  refine (history_path operations).forall_mem State.listsSound_empty ?_
  intro before after moves sound
  obtain ⟨_, _, deeds, edits, _⟩ := moves.passes.changed
  exact edits.keep sound fun edit => edit.listsSound

/-- Between any two states that follow one another threads go on by instructions, as long as numbers
of threads are not given out again. -/
theorem history_continues (operations : List Operation)
    (few : (starts (passed library settings operations)).length < 2 ^ 64) (id : ThreadId) :
    (State.empty :: passed library settings operations).IsChain (State.Continues library id) := by
  refine (history_path operations).isChain.imp_of_mem_imp fun before after passing _ moves => ?_
  intro thread later found held
  have present := Table.contains_of_get? found
  have apart := (history_route operations).thread_ne_next few passing present
  exact moves.continues apart thread later found held

/-- **Threads and frames have their state for themselves.** In every state that a machine passes,
also in the middle of a tick, a turn of a thread creates no thread and leaves each of the others as
it is, or that one goes because its owner does. And of a thread that has called a behavior, the
frame that called and those below it lie as they are for as long as other frames lie on them. When
control comes back, then in the frame that called, which has kept its behavior, its variables, its stack
object, its caller and whether it catches errors, and goes on at a target of the call. -/
theorem history_private (operations : List Operation) :
    (∀ state ∈ State.empty :: passed library settings operations,
      ∀ (running : Library) (budget : UInt32) (id : ThreadId) (random : Random.Stream)
        (effects : Effects),
        let after := (Underway.runTurn running budget id ⟨state, random, effects⟩).2.state
        ∀ other, (state.threads.get? other = none → after.threads.get? other = none) ∧
          (other ≠ id → after.threads.get? other = state.threads.get? other ∨
            after.threads.get? other = none ∧ state.entities.contains other.owner = true ∧
              ¬ after.entities.contains other.owner = true)) ∧
    ((starts (passed library settings operations)).length < 2 ^ 64 →
      ∀ (id : ThreadId) (earlier : List State) (before : State) (during : List State)
        (last : State) (later : List State),
        State.empty :: passed library settings operations =
          earlier ++ before :: (during ++ last :: later) →
        ∀ (caller : Thread) (frame : StackFrame) (callers : List StackFrame) (final : Thread),
          before.threads.get? id = some caller → caller.frames = frame :: callers → during ≠ [] →
          (∀ state ∈ during, ∃ thread, state.threads.get? id = some thread ∧
            callers.length + 1 < thread.frames.length) →
          last.threads.get? id = some final → final.frames.length = callers.length + 1 →
          (∀ state ∈ during, ∃ thread callees, state.threads.get? id = some thread ∧
            thread.frames = callees ++ { frame with pending := none } :: callers) ∧
          ∃ instruction result, library.instruction? frame.behavior frame.pc = some instruction ∧
            final.frames =
              { frame with pc := instruction.target result, pending := none } :: callers) := by
  constructor
  case left =>
    intro state passing running budget id random effects after other
    have sound := history_listsSound operations state passing
    have others (apart : other ≠ id) : State.Retains other state after :=
      @Underway.runTurn_retains running ⟨state, random, effects⟩ id other budget sound apart
    refine ⟨fun absent => ?_, fun apart => (others apart).thread⟩
    by_cases own : other = id
    · subst own
      have idle := @Underway.runTurn_absent running ⟨state, random, effects⟩ other budget absent
      exact (congrArg (fun turn => turn.2.state.threads.get? other) idle).trans absent
    · obtain same | ⟨gone, _⟩ := (others own).thread
      · exact same.trans absent
      · exact gone
  case right =>
    intro few id earlier before during last later split caller frame callers final found stack
      calling deeper held back
    have chain := history_continues operations few id
    rw [split, List.isChain_split] at chain
    obtain ⟨lies, instruction, result, there, frames⟩ := State.resumes_of_call
      (List.isChain_cons_split.mp chain.2).1 found stack calling deeper held back
    refine ⟨fun state member => ?_, instruction, result, there, frames⟩
    obtain ⟨thread, found, callees, _, frames⟩ := lies state member
    exact ⟨thread, callees, found, frames⟩

/-- A library with two behaviors. The first sets a variable of its own, calls the second, and then
sleeps. The second sets the same variable of its own, and sleeps for one tick. -/
def errandLibrary : Library where
  behaviors := (Table.empty.insert 300 ⟨300, "errand", 0, 1,
    [.ofOperand (.primitive (.expression ⟨.localVar, 0⟩ ⟨.literal, 5⟩ .assign)) 1 targetError,
      .ofOperand (.call ⟨301, Vector.replicate 4 0, ⟨1⟩⟩) 2 targetError,
      .ofOperand (.primitive (.sleep 9)) targetTrue targetError]⟩).insert 301
        ⟨301, "stop", 0, 1,
          [.ofOperand (.primitive (.expression ⟨.localVar, 0⟩ ⟨.literal, 8⟩ .assign)) 1 targetError,
            .ofOperand (.primitive (.sleep 1)) targetTrue targetError]⟩

/-- A cat runs an errand. After the call in the first tick, the second behavior is running in six
states. In the second tick control comes back, and the variable is what it was. -/
theorem history_private_errand :
    let operations : List Operation :=
      [.spawn .object "cat" ⟨some 300, [], ⟨0, 0⟩⟩, .tick [] 7, .tick [] 8]
    let states := State.empty :: passed errandLibrary ⟨10, default⟩ operations
    let frame : StackFrame :=
      { StackFrame.new 300 none none (Vector.replicate 4 0) with
        pc := 1
        locals := #v[5, 0, 0, 0, 0, 0, 0, 0] }
    (starts (passed errandLibrary ⟨10, default⟩ operations)).length < 2 ^ 64 ∧
      states.map (fun state => (state.threads.get? ⟨⟨1⟩, 1⟩).map fun thread =>
        thread.frames.map fun frame => (frame.behavior, frame.locals.get 0)) =
          [none, some [(300, 0)], some [(300, 0)], some [(300, 5)], some [(301, 0), (300, 5)],
            some [(301, 8), (300, 5)], some [(301, 8), (300, 5)], some [(301, 8), (300, 5)],
            some [(301, 8), (300, 5)], some [(301, 8), (300, 5)], some [(300, 5)], some [(300, 5)],
            some [(300, 5)], some [(300, 5)]] ∧
      ∃ final instruction result, (states.getD 10 State.empty).threads.get? ⟨⟨1⟩, 1⟩ = some final ∧
        errandLibrary.instruction? 300 1 = some instruction ∧
        final.frames = [{ frame with pc := instruction.target result, pending := none }] := by
  intro operations states frame
  have few : (starts (passed errandLibrary ⟨10, default⟩ operations)).length < 2 ^ 64 := by
    decide +kernel
  have found : (states.getD 3 State.empty).threads.get? ⟨⟨1⟩, 1⟩ =
      some ⟨⟨⟨1⟩, 1⟩, Vector.replicate 8 0, [frame]⟩ := by decide +kernel
  have deeper : ∀ state ∈ (states.drop 4).take 6, ((state.threads.get? ⟨⟨1⟩, 1⟩).map
      fun thread => thread.frames.length) = some 2 := by decide +kernel
  have back : ((states.getD 10 State.empty).threads.get? ⟨⟨1⟩, 1⟩).map
      (fun thread => thread.frames.length) = some 1 := by decide +kernel
  obtain ⟨final, held, depth⟩ := Option.map_eq_some_iff.mp back
  obtain ⟨_, instruction, result, there, frames⟩ :=
    (@history_private errandLibrary ⟨10, default⟩ operations).2 few ⟨⟨1⟩, 1⟩ (states.take 3)
      (states.getD 3 State.empty) ((states.drop 4).take 6) (states.getD 10 State.empty)
      (states.drop 11) (by decide +kernel) _ frame [] final found rfl (by decide +kernel)
      (fun state member => by
        obtain ⟨thread, found, depth⟩ := Option.map_eq_some_iff.mp (deeper state member)
        exact ⟨thread, found, Nat.lt_of_lt_of_eq Nat.one_lt_two depth.symm⟩) held depth
  exact ⟨few, by decide +kernel, final, instruction, result, held, there, frames⟩

end Machine
end Lockstep
