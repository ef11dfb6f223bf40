import Lockstep.Proofs.Behavior.Checked
import Lockstep.Proofs.Machine.History
import Lockstep.Proofs.State.Avatars
import Lockstep.Proofs.Thread.Nested

/-!
# How avatars go

An entity goes when a host removes it, when the client whose avatar it is leaves, or when a behavior
removes it. All three are one and the same (`State.Departs`): the entity has gone, its client has no
avatar any more, and nobody else goes or loses an avatar.

A removal by a behavior takes place in the middle of a tick. What the instruction does after it, to
the thread that asked for it, is of no concern to avatars (`Underway.finish_sameAvatars`).
-/

set_option autoImplicit false

namespace Lockstep

namespace State

/-- One entity has gone, and with it the tie between it and its client. -/
structure Departs (before : State) (id : EntityId) (after : State) : Prop where
  gone : after.entities.contains id = false
  others : ∀ other, other ≠ id → after.entities.contains other = before.entities.contains other
  clients : ∀ other, other ≠ id → after.clientOf? other = before.clientOf? other
  /-- Exactly the client whose avatar it was has no avatar any more. -/
  avatars : ∀ client, after.avatarOf? client =
    if before.avatarOf? client = some id then none else before.avatarOf? client

/-- The same entities are alive, with the same clients. -/
structure SameAvatars (before after : State) : Prop where
  alive : ∀ id, after.entities.contains id = before.entities.contains id
  clients : ∀ id, after.clientOf? id = before.clientOf? id
  avatars : ∀ client, after.avatarOf? client = before.avatarOf? client

theorem setThreads_sameAvatars (state : State) (threads : ThreadTable) :
    state.SameAvatars { state with threads } :=
  ⟨fun _ => rfl, fun _ => rfl, fun _ => rfl⟩

theorem Departs.after {before middle after : State} {id : EntityId}
    (departs : before.Departs id middle) (same : middle.SameAvatars after) :
    before.Departs id after where
  gone := (same.alive id).trans departs.gone
  others other apart := (same.alive other).trans (departs.others other apart)
  clients other apart := (same.clients other).trans (departs.clients other apart)
  avatars client := (same.avatars client).trans (departs.avatars client)

theorem removeThread_sameAvatars (state : State) (id : ThreadId) :
    state.SameAvatars (state.removeThread id) where
  alive probe := EntityTable.contains_modify state.entities id.owner probe _
  clients := clientOf?_modify rfl fun _ => rfl
  avatars _ := rfl

theorem contains_despawn_iff {state next : State} {id probe : EntityId}
    {trace : List TraceEntry} (despawned : state.despawn id = some (trace, next)) :
    next.entities.contains probe = true ↔ probe ≠ id ∧ state.entities.contains probe = true := by
  obtain ⟨gone, _, _, rfl⟩ := despawn_eq despawned
  have stopped : (state.stopSounds id).entities.contains probe = state.entities.contains probe :=
    EntityTable.contains_modify state.entities id probe _
  rw [contains_cutLinks, EntityTable.contains_erase_iff, stopped]

theorem despawn_departs {state next : State} {id : EntityId} {trace : List TraceEntry}
    (known : state.ClientsKnown) (alive : state.AvatarsAlive)
    (despawned : state.despawn id = some (trace, next)) : state.Departs id next where
  gone := by
    refine Bool.eq_false_iff.mpr fun present => ?_
    exact ((contains_despawn_iff despawned).mp present).1 rfl
  others other apart := by
    refine Bool.eq_iff_iff.mpr ((contains_despawn_iff despawned).trans ?_)
    exact and_iff_right apart
  clients other apart := by rw [clientOf?_despawn despawned, if_neg apart]
  avatars client := by
    have tied : state.clientOf? id = some client ↔ state.avatarOf? client = some id :=
      ⟨known id client, alive client id⟩
    simp only [avatarOf?_despawn despawned, tied]

end State

theorem despawn_isSome {state : State} {id : EntityId}
    (present : state.entities.contains id = true) :
    ∃ trace next, state.despawn id = some (trace, next) := by
  obtain ⟨entity, found⟩ := Table.contains_iff.mp present
  exact ⟨_, _, Option.map_eq_some_iff.mpr ⟨entity, found, rfl⟩⟩

/-! ## The three ways to go -/

/-- A host removes an entity. -/
theorem History.extend_departs {history : History} {id : EntityId}
    (known : history.machine.state.ClientsKnown) (alive : history.machine.state.AvatarsAlive)
    (present : history.machine.state.entities.contains id = true) :
    history.machine.state.Departs id (history.extend (.despawn id)).machine.state := by
  obtain ⟨trace, next, despawned⟩ := despawn_isSome present
  rw [extend, Machine.despawn, despawned]
  exact State.despawn_departs known alive despawned

namespace Underway

variable {library : Library} {underway : Underway}

/-- A client leaves. -/
theorem leave_departs (known : underway.state.ClientsKnown) (alive : underway.state.AvatarsAlive)
    {client : ClientId} {id : EntityId} (bound : underway.state.avatarOf? client = some id) :
    underway.state.Departs id (underway.leave client).state := by
  have present : underway.state.entities.contains id = true := by
    obtain ⟨entity, found, _⟩ := Option.bind_eq_some_iff.mp (alive client id bound)
    exact Table.contains_of_get? found
  obtain ⟨trace, next, despawned⟩ := despawn_isSome present
  rw [leave, bound]
  dsimp only
  rw [despawned]
  exact State.despawn_departs known alive despawned

theorem remove_departs (known : underway.state.ClientsKnown) (alive : underway.state.AvatarsAlive)
    {id : EntityId} (present : underway.state.entities.contains id = true) :
    underway.state.Departs id (underway.remove id).state := by
  obtain ⟨trace, next, despawned⟩ := despawn_isSome present
  rw [remove, despawned]
  exact State.despawn_departs known alive despawned

/-- Putting a thread where it goes on, or removing it, leaves entities and avatars alone. -/
theorem land_sameAvatars (underway : Underway) (id : ThreadId) (temps : Vector Int16 8)
    (unwinding : Unwinding) :
    underway.state.SameAvatars (underway.land id temps unwinding).2.state := by
  rw [land]
  cases unwinding.landing with
  | resumed frames => exact underway.state.setThreads_sameAvatars _
  | completed result => exact underway.state.removeThread_sameAvatars id
  | aborted fault => exact underway.state.removeThread_sameAvatars id

theorem finish_sameAvatars (underway : Underway) (id : ThreadId) (instruction : Instruction)
    (kind : PrimitiveKind) (frame : StackFrame) (callers : List StackFrame)
    (temps : Vector Int16 8) (exit : Exit) :
    underway.state.SameAvatars
      (finish library id instruction kind frame callers temps exit underway).2.state := by
  cases exit with
  | branch result => exact land_sameAvatars underway id temps _
  | fault fault => exact land_sameAvatars underway id temps _
  | yield progress => exact underway.state.setThreads_sameAvatars _

end Underway

/-- A thread is about to remove a live entity: its owner or its stack object. -/
def Thread.Removes (library : Library) (state : State) (id : ThreadId) (thread : Thread)
    (entity : EntityId) : Prop :=
  ∃ frame callers flags, thread.frames = frame :: callers ∧
    frame.operand? library = some (.primitive (.removeObject flags)) ∧
    (if flags.onStackObject then frame.stackObject else some id.owner) = some entity ∧
    state.entities.contains entity = true

/-- What is asked for is the removal of the target, if it is alive. -/
theorem Primitive.requestRemoval_eq {context : Context} {flags : TargetFlags} {entity : EntityId}
    (target : (if flags.onStackObject then context.frame.stackObject else some context.owner) =
      some entity)
    (alive : context.entities.contains entity = true) :
    requestRemoval flags context = (.branch true, context.deferRemoval entity) := by
  have resolved : context.resolve (targetOf flags.onStackObject) = some entity := by
    rw [targetOf]
    by_cases onObject : flags.onStackObject = true
    · rw [if_pos onObject] at target
      rw [if_pos onObject, Context.resolve, target, Option.bind_some, Context.alive?, if_pos alive]
    · rw [if_neg onObject] at target
      obtain rfl := Option.some.inj target
      rw [if_neg onObject, Context.resolve, Context.alive?, if_pos alive]
  rw [requestRemoval, resolved]

namespace Underway

variable {library : Library} {underway : Underway} {id : ThreadId} {entity : EntityId}

/-- The removal takes place as soon as it was asked for, and then the instruction ends. -/
theorem perform_removeObject {fetched : Fetched} {instruction : Instruction} {flags : TargetFlags}
    (target : (if flags.onStackObject then fetched.frame.stackObject else some id.owner) =
      some entity)
    (present : underway.state.entities.contains entity = true) :
    perform library id fetched instruction (.removeObject flags) underway =
      if (underway.remove entity).state.threads.contains id then
        finish library id instruction .removeObject fetched.frame fetched.callers fetched.temps
          (.branch true) (underway.remove entity)
      else (.done .removed, underway.remove entity) := by
  rw [perform, Primitive.dispatch_self, Primitive.run, Primitive.requestRemoval_eq target present,
    Context.deferRemoval, if_neg List.not_mem_nil]
  rfl

theorem perform_departs {fetched : Fetched} {instruction : Instruction} {flags : TargetFlags}
    (known : underway.state.ClientsKnown) (alive : underway.state.AvatarsAlive)
    (target : (if flags.onStackObject then fetched.frame.stackObject else some id.owner) =
      some entity)
    (present : underway.state.entities.contains entity = true) :
    underway.state.Departs entity
      (perform library id fetched instruction (.removeObject flags) underway).2.state := by
  have removed := remove_departs known alive present
  rw [perform_removeObject target present]
  split
  · exact removed.after (finish_sameAvatars _ id instruction _ _ _ _ _)
  · exact removed

/-- A behavior removes an entity. -/
theorem step_departs {thread : Thread} (known : underway.state.ClientsKnown)
    (alive : underway.state.AvatarsAlive)
    (removes : thread.Removes library underway.state id entity) :
    underway.state.Departs entity (step library id thread underway).2.state := by
  obtain ⟨temps, _⟩ := thread
  obtain ⟨frame, callers, flags, rfl, operand, target, present⟩ := removes
  obtain ⟨instruction, fetched, decodes⟩ := Option.bind_eq_some_iff.mp operand
  have decoded : instruction.decodeOperand = .ok (.primitive (.removeObject flags)) := by
    cases read : instruction.decodeOperand with
    | error cause =>
      rw [read] at decodes
      exact absurd decodes (Option.some_ne_none _).symm
    | ok found =>
      rw [read] at decodes
      exact congrArg Except.ok (Option.some.inj decodes)
  obtain ⟨behavior, loaded, _⟩ := Library.instruction?_eq_some_iff.mp fetched
  have loads : library.contains frame.behavior = true :=
    Library.contains_iff.mpr ⟨behavior, loaded⟩
  rw [step]
  dsimp only
  rw [execute]
  simp only [loads, fetched, decoded]
  exact perform_departs known alive target present

end Underway
end Lockstep
