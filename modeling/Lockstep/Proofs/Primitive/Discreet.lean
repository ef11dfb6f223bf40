import Lockstep.Proofs.Primitive.Outcomes
import Lockstep.Proofs.Thread.Warrant

/-!
# What is told of threads

When a thread ends or catches a fault, a note says so, and a line when it catches one. Those are the
only texts that begin with the word for threads. `Effects.Warranted` says of all that a tick has
given to the outside so far that each such text tells of a warranted fault, or of a thread that
has finished.

Primitives have other things to tell, and none refuses the operand that it was found by
(`Primitive.run_discreet`).
-/

set_option autoImplicit false

namespace Lockstep

/-! ## Texts -/

/-- A text that begins with the word for threads. -/
def TellsOfThread (text : String) : Prop := "thread ".toList <+: text.toList

/-- A text that begins with another letter. -/
def Aside (text : String) : Prop := text.toList.head?.any (· ≠ 't') = true

instance (text : String) : Decidable (Aside text) := inferInstanceAs (Decidable (_ = true))

theorem Aside.append {start : String} (aside : Aside start) (rest : String) :
    Aside (start ++ rest) := by
  rw [Aside, String.toList_append, List.head?_append]
  unfold Aside at aside
  cases first : start.toList.head? with
  | none => simp [first] at aside
  | some letter => simpa [first] using aside

theorem Aside.not_tells {text : String} (aside : Aside text) : ¬ TellsOfThread text := by
  rintro ⟨rest, same⟩
  have first : text.toList.head? = some 't' := by
    rw [← same]
    rfl
  simp [Aside, first] at aside

theorem EntityId.aside (id : EntityId) : Aside id.text := .append (by decide +kernel) _

theorem ClientId.aside (id : ClientId) : Aside id.text := .append (by decide +kernel) _

/-- The identity of a thread is a single word. -/
theorem ThreadId.space_not_mem_text (id : ThreadId) : ' ' ∉ id.text.toList := by
  have digits (number : Nat) : ' ' ∉ Nat.toDigits 10 number := fun member =>
    absurd (Nat.isDigit_of_mem_toDigits (by decide) (by decide) member) (by decide)
  simp [ThreadId.text, EntityId.text, digits]

/-- The line that tells of a fault that was caught has only one label in it. -/
theorem caught_inj {id other : ThreadId} {label same : String}
    (lines : "thread " ++ id.text ++ " caught " ++ label =
      "thread " ++ other.text ++ " caught " ++ same) : label = same := by
  have letters : id.text.toList ++ ' ' :: ("caught ".toList ++ label.toList) =
      other.text.toList ++ ' ' :: ("caught ".toList ++ same.toList) := by
    have letters := congrArg String.toList lines
    simp only [String.toList_append, List.append_assoc] at letters
    exact List.append_cancel_left letters
  -- What follows the identity begins at the first space.
  have word (thread : ThreadId) (rest : List Char) :
      (thread.text.toList ++ ' ' :: rest).dropWhile (· ≠ ' ') = ' ' :: rest := by
    rw [List.dropWhile_append_of_pos]
    · rfl
    · intro letter member
      exact decide_eq_true fun space => thread.space_not_mem_text (space ▸ member)
  have rests := congrArg (List.dropWhile (· ≠ ' ')) letters
  rw [word, word] at rests
  exact String.toList_inj.mp (List.append_cancel_left (List.cons.inj rests).2)

/-- A line that may be said: if it is about a thread, the thread has caught a warranted fault. -/
def Library.MaySay (library : Library) (line : String) : Prop :=
  TellsOfThread line → ∃ (id : ThreadId) (fault : ThreadFault), fault.Warranted library ∧
    line = "thread " ++ id.text ++ " caught " ++ fault.label

/-- A note that may be taken: if it is about a thread, the thread has finished, or has ended with a
warranted fault, or has caught one. -/
def Library.MayNote (library : Library) (text : String) : Prop :=
  TellsOfThread text → ∃ id : ThreadId,
    (∃ result : Bool, text = "thread " ++ id.text ++ " finished (" ++ toString result ++ ")") ∨
    ∃ fault : ThreadFault, fault.Warranted library ∧
      (text = "thread " ++ id.text ++ " aborted: " ++ fault.message ∨
        text = "thread " ++ id.text ++ " caught " ++ fault.message)

/-- A line that may be said and tells of a fault tells of a warranted one. -/
theorem Library.MaySay.warranted {library : Library} {id : ThreadId} {label : String}
    (may : library.MaySay ("thread " ++ id.text ++ " caught " ++ label)) :
    ∃ fault : ThreadFault, fault.Warranted library ∧ fault.label = label := by
  have tells : TellsOfThread ("thread " ++ id.text ++ " caught " ++ label) := by
    simp only [TellsOfThread, String.toList_append, List.append_assoc]
    exact List.prefix_append _ _
  obtain ⟨other, fault, warrant, same⟩ := may tells
  exact ⟨fault, warrant, (caught_inj same).symm⟩

/-! ## Effects -/

/-- All that was said and noted may be said and noted. -/
structure Effects.Warranted (library : Library) (effects : Effects) : Prop where
  lines : ∀ line ∈ effects.events, library.MaySay line
  notes : ∀ level text, TraceEntry.note level text ∈ effects.trace → library.MayNote text

namespace Effects.Warranted

variable {library : Library} {effects : Effects}

theorem none : Effects.none.Warranted library :=
  ⟨fun _ said => absurd said List.not_mem_nil, fun _ _ noted => absurd noted List.not_mem_nil⟩

theorem say (warranted : effects.Warranted library) {line : String} (may : library.MaySay line) :
    (effects.addEvent line).Warranted library :=
  ⟨List.forall_mem_cons.mpr ⟨may, warranted.lines⟩, warranted.notes⟩

theorem trace (warranted : effects.Warranted library) {entries : List TraceEntry}
    (may : ∀ level text, TraceEntry.note level text ∈ entries → library.MayNote text) :
    (effects.addTrace entries).Warranted library := by
  refine ⟨warranted.lines, fun level text member => ?_⟩
  rcases List.mem_append.mp member with new | old
  · exact may level text (List.mem_reverse.mp new)
  · exact warranted.notes level text old

theorem note (warranted : effects.Warranted library) (level : LogLevel) {text : String}
    (may : library.MayNote text) : (effects.addNote level text).Warranted library := by
  refine warranted.trace fun level text member => ?_
  obtain ⟨rfl, rfl⟩ := TraceEntry.note.inj (List.mem_singleton.mp member)
  exact may

/-- Sounds are no notes. -/
theorem sounds (warranted : effects.Warranted library) {entries : List TraceEntry}
    (silent : ∀ entry ∈ entries, ∃ event, entry = .sound event) :
    (effects.addTrace entries).Warranted library := by
  refine warranted.trace fun level text member => ?_
  obtain ⟨event, same⟩ := silent _ member
  cases same

theorem sayAside (warranted : effects.Warranted library) {line : String} (aside : Aside line) :
    (effects.addEvent line).Warranted library :=
  warranted.say fun tells => absurd tells aside.not_tells

theorem noteAside (warranted : effects.Warranted library) (level : LogLevel) {text : String}
    (aside : Aside text) : (effects.addNote level text).Warranted library :=
  warranted.note level fun tells => absurd tells aside.not_tells

end Effects.Warranted

/-! ## Primitives -/

namespace Context

variable {context : Context}

theorem effects_write {reference : VarRef} {value : Int16} {after : Context}
    (written : context.write reference value = .ok after) : after.effects = context.effects := by
  cases wrote_of_write written with
  | temps temps => rfl
  | frame locals params chosen => rfl
  | entity id place => rfl

end Context

namespace Primitive

variable {library : Library} {context : Context}

/-- An outcome of a primitive that tells nothing of threads, and does not refuse its operand. -/
structure Discreet (library : Library) (context : Context) (outcome : Exit × Context) : Prop where
  told : context.effects.Warranted library → outcome.2.effects.Warranted library
  accepts : ∀ expected, outcome.1 ≠ .fault (.operandMismatch expected)

theorem discreet_branch {after : Context} (result : Bool)
    (told : context.effects.Warranted library → after.effects.Warranted library) :
    Discreet library context (.branch result, after) :=
  ⟨told, fun _ same => Exit.noConfusion same⟩

theorem discreet_yield {after : Context} (progress : UInt32)
    (same : after.effects = context.effects) :
    Discreet library context (.yield progress, after) :=
  ⟨fun warranted => same ▸ warranted, fun _ same => Exit.noConfusion same⟩

theorem discreet_quiet {after : Context} (result : Bool) (same : after.effects = context.effects) :
    Discreet library context (.branch result, after) :=
  discreet_branch result fun warranted => same ▸ warranted

theorem discreet_fault {after : Context} {fault : PrimitiveFault}
    (accepts : ∀ expected, fault ≠ .operandMismatch expected)
    (same : after.effects = context.effects) : Discreet library context (.fault fault, after) :=
  ⟨fun warranted => same ▸ warranted, fun expected same => accepts expected (Exit.fault.inj same)⟩

/-- What a primitive comes to tells nothing of threads. -/
theorem Outcome.discreet {action : Primitive} {result : Exit × Context}
    (outcome : Outcome context action result) : Discreet library context result := by
  cases outcome with
  | fails accepts => exact discreet_fault accepts rfl
  | loses accepts => exact discreet_fault accepts rfl
  | passes result => exact discreet_quiet result rfl
  | stores written => exact discreet_quiet true (Context.effects_write written)
  | draws written =>
    refine discreet_quiet true ?_
    rw [Context.effects_write written]
  | sleeps progress => exact discreet_yield progress rfl
  | animates shown progress => exact discreet_yield progress rfl
  | chooses | shows | relates | asks => exact discreet_quiet true rfl
  | plays =>
    refine discreet_branch true fun warranted => (warranted.sounds ?_).sayAside ?_
    · exact List.forall_mem_singleton.mpr ⟨_, rfl⟩
    · simp only [String.append_assoc]
      exact .append (by decide +kernel) _
  | silences =>
    exact discreet_branch true fun warranted =>
      warranted.sounds (List.forall_mem_map.mpr fun _ _ => ⟨_, rfl⟩)
  | releases =>
    refine discreet_branch true fun warranted => (warranted.sounds ?_).sayAside ?_
    · exact List.forall_mem_map.mpr fun _ _ => ⟨_, rfl⟩
    · simp only [String.append_assoc]
      exact .append (by decide +kernel) _
  | grabs | drops =>
    refine discreet_branch true fun warranted => warranted.sayAside ?_
    exact ((EntityId.aside _).append _).append _
  | notifies => exact discreet_branch true fun warranted => ⟨warranted.lines, warranted.notes⟩

/-- **A primitive tells nothing of threads, and does not refuse its operand.** -/
theorem run_discreet (action : Primitive) (resumed : Option UInt32) :
    Discreet library context (action.run resumed context) :=
  (run_outcome action resumed context).discreet

end Primitive
end Lockstep
