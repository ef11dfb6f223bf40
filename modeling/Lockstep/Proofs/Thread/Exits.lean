import Lockstep.Thread.Unwind

/-!
# Frames that are left one by one

When a frame is left, the instruction that called it goes on, or its own frame is left in turn.
`unwind` follows this to the end at once. Here it is done one frame at a time. A `FrameExit` is a
stack of which the innermost frame is about to be left, and `FrameExit.next` says what that leads
to: another exit, or the place where the thread has landed.

Going from exit to exit leads to just what `unwind` gives (`FrameExit.unwinds_iff`). Every exit
takes one frame off the stack, so there are no more exits than frames
(`FrameExit.Unwinds.length_le`), and a thread that goes on has lost as many frames as there were
exits (`FrameExit.Unwinds.length_resumed`). Nothing is asked of the frames: there may be any number
of them, at any places of any behaviors, loaded or not.
-/

set_option autoImplicit false

namespace Lockstep

/-- What the calling instruction is told when a frame is left. A fault that the frame catches counts
as the result false; of any other fault nobody is told. -/
def Resolution.told (catches : Bool) : Resolution → Except ThreadFault Bool
  | .returned result => .ok result
  | .failed fault => if catches then .ok false else .error fault

/-- Where a thread is when its last frame has been left. -/
def Resolution.landing : Resolution → Landing
  | .returned result => .completed result
  | .failed fault => .aborted fault

/-- The innermost of some frames is about to be left. -/
structure FrameExit where
  /-- The frames, innermost first. -/
  frames : List StackFrame
  resolution : Resolution

namespace FrameExit

/-- Whether the frame that is left catches errors. -/
def catches (exit : FrameExit) : Bool := exit.frames.head?.any StackFrame.catchErrors

@[simp] theorem catches_cons (left : StackFrame) (callers : List StackFrame)
    (resolution : Resolution) :
    catches ⟨left :: callers, resolution⟩ = left.catchErrors := rfl

/-- Take the innermost frame off. If there is a frame below it, and that is told, it follows the
target that its instruction has for the result: it goes on there, or is left in its turn. -/
def next (library : Library) (exit : FrameExit) : FrameExit ⊕ Landing :=
  match exit.frames.tail with
  | [] => .inr exit.resolution.landing
  | frame :: callers =>
    match exit.resolution.told exit.catches with
    | .error fault => .inr (.aborted fault)
    | .ok result =>
      match frame.answer library result with
      | .jump index => .inr (.resumed (frame.jump index :: callers))
      | .leave resolution => .inl ⟨frame :: callers, resolution⟩

/-- The fault that is caught when the frame is left, if one is. -/
def caught (exit : FrameExit) : List ThreadFault :=
  match exit.frames.tail, exit.resolution with
  | _ :: _, .failed fault => if exit.catches then [fault] else []
  | _, _ => []

/-- One exit leads to the next, through these, and at last to where the thread has landed. The
faults are those that were caught on the way. -/
inductive Unwinds (library : Library) : FrameExit → List FrameExit → Unwinding → Prop where
  | lands {exit : FrameExit} {landing : Landing} :
      exit.next library = .inr landing → Unwinds library exit [] ⟨exit.caught, landing⟩
  | goesOn {exit later : FrameExit} {rest : List FrameExit} {unwinding : Unwinding} :
      exit.next library = .inl later → Unwinds library later rest unwinding →
        Unwinds library exit (later :: rest) ⟨exit.caught ++ unwinding.caught, unwinding.landing⟩

variable {library : Library} {exit later : FrameExit} {rest : List FrameExit}
  {unwinding : Unwinding} {frames : List StackFrame}

/-! ## One frame at a time -/

/-- All that an exit can lead to. -/
inductive Leads (library : Library) : FrameExit → FrameExit ⊕ Landing → Prop where
  /-- The outermost frame is left. -/
  | outermost {frames : List StackFrame} (resolution : Resolution) : frames.tail = [] →
      Leads library ⟨frames, resolution⟩ (.inr resolution.landing)
  /-- The fault is not caught. -/
  | untold (frames : List StackFrame) (fault : ThreadFault) :
      Leads library ⟨frames, .failed fault⟩ (.inr (.aborted fault))
  /-- The frame below goes on. -/
  | resumes (left : StackFrame) {frame : StackFrame} (callers : List StackFrame)
      (resolution : Resolution) {result : Bool} {index : UInt8} :
      frame.answer library result = .jump index →
      Leads library ⟨left :: frame :: callers, resolution⟩
        (.inr (.resumed (frame.jump index :: callers)))
  /-- The frame below is left in its turn. -/
  | leaves (left : StackFrame) {frame : StackFrame} (callers : List StackFrame)
      (resolution : Resolution) {result : Bool} {answer : Resolution} :
      frame.answer library result = .leave answer →
      Leads library ⟨left :: frame :: callers, resolution⟩ (.inl ⟨frame :: callers, answer⟩)

/-- **An exit leads to nothing else.** -/
theorem leads_next (library : Library) (exit : FrameExit) : Leads library exit (exit.next library) := by
  obtain ⟨frames, resolution⟩ := exit
  rcases frames with _ | ⟨left, _ | ⟨frame, callers⟩⟩
  · exact .outermost resolution rfl
  · exact .outermost resolution rfl
  · rw [next, List.tail_cons, catches_cons]
    dsimp only
    have heard (result : Bool) : Leads library ⟨left :: frame :: callers, resolution⟩
        (match frame.answer library result with
        | .jump index => .inr (.resumed (frame.jump index :: callers))
        | .leave resolution => .inl ⟨frame :: callers, resolution⟩) := by
      cases answered : frame.answer library result with
      | jump index => exact .resumes left callers resolution answered
      | leave answer => exact .leaves left callers resolution answered
    cases resolution with
    | returned result => exact heard result
    | failed fault =>
      rw [Resolution.told]
      cases left.catchErrors with
      | true => exact heard false
      | false => exact .untold _ fault

/-- The next exit is that of the frame below, which is left with what it answers. -/
theorem answer_of_next (leads : exit.next library = .inl later) :
    ∃ left frame callers result, exit.frames = left :: frame :: callers ∧
      later.frames = frame :: callers ∧ frame.answer library result = .leave later.resolution := by
  have leading := leads ▸ leads_next library exit
  cases leading with
  | leaves left callers resolution answered => exact ⟨left, _, callers, _, rfl, rfl, answered⟩

/-- **An exit takes one frame off**, and another exit follows only if there are frames left. -/
theorem frames_of_next (leads : exit.next library = .inl later) :
    ∃ left, exit.frames = left :: later.frames ∧ later.frames ≠ [] := by
  obtain ⟨left, frame, callers, result, stack, below, _⟩ := answer_of_next leads
  rw [below]
  exact ⟨left, stack, List.cons_ne_nil frame callers⟩

/-- A frame that goes on was directly below the one that was left. -/
theorem frames_of_resumed (resumed : exit.next library = .inr (.resumed frames)) :
    ∃ left frame callers result index, exit.frames = left :: frame :: callers ∧
      frame.answer library result = .jump index ∧ frames = frame.jump index :: callers := by
  have leading := leads_next library exit
  generalize landed : exit.next library = landing at leading
  rw [resumed] at landed
  cases leading with
  | outermost resolution => cases resolution <;> cases landed
  | untold => cases landed
  | resumes left callers resolution answered =>
    cases landed
    exact ⟨left, _, callers, _, _, rfl, answered, rfl⟩
  | leaves => cases landed

/-- A fault that nobody is told of is the one with which the frame is left. -/
theorem resolution_of_aborted {fault : ThreadFault}
    (aborted : exit.next library = .inr (.aborted fault)) : exit.resolution = .failed fault := by
  have leading := leads_next library exit
  generalize landed : exit.next library = landing at leading
  rw [aborted] at landed
  cases leading with
  | outermost resolution =>
    cases resolution with
    | returned result => cases landed
    | failed other =>
      cases landed
      rfl
  | untold frames other =>
    cases landed
    rfl
  | resumes => cases landed
  | leaves => cases landed

namespace Unwinds

/-- Each exit finds one frame less than the one before it. -/
theorem length_frames (unwinds : Unwinds library exit rest unwinding) :
    ∀ index later, (exit :: rest)[index]? = some later →
      later.frames.length + index = exit.frames.length := by
  induction unwinds with
  | lands landed =>
    intro index later found
    cases index with
    | zero => simp_all
    | succ index => simp at found
  | goesOn leads _ inductionHypothesis =>
    intro index later found
    obtain ⟨left, frames, _⟩ := frames_of_next leads
    cases index with
    | zero => simp_all
    | succ index =>
      rw [List.getElem?_cons_succ] at found
      have counted := inductionHypothesis index later found
      rw [frames, List.length_cons, ← counted, Nat.add_assoc]

/-- **There are no more exits than frames.** -/
theorem length_le (unwinds : Unwinds library exit rest unwinding) (some : exit.frames ≠ []) :
    (exit :: rest).length ≤ exit.frames.length := by
  induction unwinds with
  | lands landed => exact List.length_pos_iff.mpr some
  | goesOn leads _ inductionHypothesis =>
    obtain ⟨left, frames, others⟩ := frames_of_next leads
    rw [frames]
    exact Nat.succ_le_succ (inductionHypothesis others)

/-- **A thread that goes on has lost one frame with every exit.** -/
theorem length_resumed (unwinds : Unwinds library exit rest unwinding)
    (resumed : unwinding.landing = .resumed frames) :
    frames.length + (exit :: rest).length = exit.frames.length := by
  induction unwinds with
  | lands landed =>
    cases resumed
    obtain ⟨left, frame, callers, result, index, stack, _, rfl⟩ := frames_of_resumed landed
    rw [stack]
    rfl
  | goesOn leads _ inductionHypothesis =>
    obtain ⟨left, stack, _⟩ := frames_of_next leads
    rw [stack]
    exact congrArg Nat.succ (inductionHypothesis resumed)

/-- **The frame that goes on is the first one that jumps**, and those below it stay. -/
theorem resumed (unwinds : Unwinds library exit rest unwinding)
    (resumed : unwinding.landing = .resumed frames) :
    ∃ left frame callers result index, exit.frames.tail = left ++ frame :: callers ∧
      frame.answer library result = .jump index ∧ frames = frame.jump index :: callers := by
  induction unwinds with
  | lands landed =>
    cases resumed
    obtain ⟨left, frame, callers, result, index, stack, answered, same⟩ := frames_of_resumed landed
    exact ⟨[], frame, callers, result, index, congrArg List.tail stack, answered, same⟩
  | goesOn leads _ inductionHypothesis =>
    obtain ⟨_, outer, _, _, stack, below, _⟩ := answer_of_next leads
    obtain ⟨left, frame, callers, result, index, split, answered, same⟩ :=
      inductionHypothesis resumed
    rw [below, List.tail_cons] at split
    refine ⟨outer :: left, frame, callers, result, index, ?_, answered, same⟩
    rw [stack, split]
    rfl

/-- **A fault that ends the thread is the first one, or one that a frame has answered.** -/
theorem aborted (unwinds : Unwinds library exit rest unwinding) {fault : ThreadFault}
    (aborted : unwinding.landing = .aborted fault) :
    exit.resolution = .failed fault ∨
      ∃ frame ∈ exit.frames.tail, ∃ result,
        frame.answer library result = .leave (.failed fault) := by
  induction unwinds with
  | lands landed =>
    cases aborted
    exact .inl (resolution_of_aborted landed)
  | goesOn leads _ inductionHypothesis =>
    obtain ⟨_, outer, callers, result, stack, below, answered⟩ := answer_of_next leads
    rw [stack, List.tail_cons]
    rcases inductionHypothesis aborted with here | ⟨frame, member, later⟩
    · exact .inr ⟨outer, List.mem_cons_self, result, here ▸ answered⟩
    · rw [below, List.tail_cons] at member
      exact .inr ⟨frame, List.mem_cons_of_mem outer member, later⟩

end Unwinds

/-! ## All frames at once -/

/-- What `unwind` gives, after one exit. -/
theorem unwind_eq (library : Library) (exit : FrameExit) :
    unwind library exit.catches exit.frames.tail exit.resolution =
      match exit.next library with
      | .inr landing => ⟨exit.caught, landing⟩
      | .inl later =>
        let rest := unwind library later.catches later.frames.tail later.resolution
        ⟨exit.caught ++ rest.caught, rest.landing⟩ := by
  obtain ⟨frames, resolution⟩ := exit
  rcases frames with _ | ⟨left, _ | ⟨frame, callers⟩⟩
  · cases resolution <;> rfl
  · cases resolution <;> rfl
  · cases resolution with
    | returned result =>
      simp only [next, caught, List.tail_cons, unwind, Resolution.told]
      cases frame.answer library result <;> rfl
    | failed fault =>
      simp only [next, caught, List.tail_cons, unwind, Resolution.told, catches_cons]
      by_cases catching : left.catchErrors = true
      · cases answered : frame.answer library false <;> simp [catching, answered]
      · simp [catching]

/-- **Leaving frames one by one is what `unwind` does**, and there is no other way to do it. -/
theorem unwinds_iff :
    (∃ rest, Unwinds library exit rest unwinding) ↔
      unwind library exit.catches exit.frames.tail exit.resolution = unwinding := by
  constructor
  · rintro ⟨rest, unwinds⟩
    induction unwinds with
    | lands landed => rw [unwind_eq, landed]
    | goesOn leads _ inductionHypothesis =>
      rw [unwind_eq, leads]
      dsimp only
      rw [inductionHypothesis]
  · rintro rfl
    -- By induction on the frames, since the next exit finds those below the one that is left.
    induction stack : exit.frames generalizing exit with
    | nil =>
      obtain ⟨frames, resolution⟩ := exit
      obtain rfl : frames = [] := stack
      rw [unwind_eq]
      exact ⟨[], .lands rfl⟩
    | cons left below inductionHypothesis =>
      rw [← stack, unwind_eq]
      cases leads : exit.next library with
      | inr landing => exact ⟨[], .lands leads⟩
      | inl later =>
        obtain ⟨_, frames, _⟩ := frames_of_next leads
        obtain ⟨_, same⟩ := List.cons.inj (frames.symm.trans stack)
        obtain ⟨rest, unwinds⟩ := inductionHypothesis same
        exact ⟨later :: rest, .goesOn leads (same ▸ unwinds)⟩

/-- Leaving frames leads somewhere, whatever it is that is left. -/
theorem exists_unwinds (library : Library) (catches : Bool) (callers : List StackFrame)
    (resolution : Resolution) :
    ∃ left rest, Unwinds library ⟨left :: callers, resolution⟩ rest
      (unwind library catches callers resolution) := by
  let left : StackFrame :=
    { StackFrame.new 0 none none (Vector.replicate 4 0) with catchErrors := catches }
  exact ⟨left, unwinds_iff.mpr rfl⟩

end FrameExit

/-! ## Where leaving frames leads -/

section

variable {library : Library} {catches : Bool} {callers frames : List StackFrame}
  {resolution : Resolution}

theorem StackFrame.eq_of_aim {frame : StackFrame} {target index : UInt8}
    (jumps : frame.aim library target = .jump index) : index = target := by
  rw [aim] at jumps
  repeat' split at jumps
  all_goals cases jumps
  rfl

/-- A frame that goes on does so at a target of the instruction that it is at. -/
theorem StackFrame.eq_of_answer {frame : StackFrame} {result : Bool} {index : UInt8}
    (jumps : frame.answer library result = .jump index) :
    ∃ instruction, library.instruction? frame.behavior frame.pc = some instruction ∧
      index = instruction.target result := by
  rw [answer] at jumps
  cases found : library.instruction? frame.behavior frame.pc with
  | none =>
    rw [found] at jumps
    cases jumps
  | some instruction =>
    rw [found] at jumps
    exact ⟨instruction, rfl, eq_of_aim jumps⟩

/-- **When frames are left, the first one that is left over goes on**, and those below it stay. -/
theorem unwind_resumed
    (resumed : (unwind library catches callers resolution).landing = .resumed frames) :
    ∃ left frame rest instruction result, callers = left ++ frame :: rest ∧
      library.instruction? frame.behavior frame.pc = some instruction ∧
      frames = frame.jump (instruction.target result) :: rest := by
  obtain ⟨_, _, unwinds⟩ := FrameExit.exists_unwinds library catches callers resolution
  obtain ⟨left, frame, rest, result, index, split, answered, same⟩ := unwinds.resumed resumed
  obtain ⟨instruction, found, rfl⟩ := StackFrame.eq_of_answer answered
  exact ⟨left, frame, rest, instruction, result, split, found, same⟩

/-- **When frames are left, a fault ends the thread** only if it is the one they are left with, or a
frame has answered with it. -/
theorem unwind_aborted {fault : ThreadFault}
    (aborted : (unwind library catches callers resolution).landing = .aborted fault) :
    resolution = .failed fault ∨
      ∃ frame ∈ callers, ∃ result, frame.answer library result = .leave (.failed fault) := by
  obtain ⟨_, _, unwinds⟩ := FrameExit.exists_unwinds library catches callers resolution
  exact unwinds.aborted aborted

end

end Lockstep
