import Lockstep.Proofs.Machine.Chronicle
import Lockstep.Proofs.Primitive.Burdens
import Lockstep.Proofs.Thread.Parts

/-!
# Loops of carriers in histories

An entity may pick up another one that carries it, and then both carry themselves. That is the only
way in which loops come about: a history is free of them exactly if nobody ever picks up somebody by
whom it is carried, however many are between them (`Machine.history_loopless`). In each small step
of a history either nobody carries more, or one entity has picked one thing up
(`State.Moves.burdens`).
-/

set_option autoImplicit false

namespace Lockstep

namespace State

variable {before after : State}

/-! ## Spawning, despawning and commands -/

theorem relieves_startThread {owner : EntityId} {behavior : UInt16}
    {caller stackObject : Option EntityId} {params : Vector Int16 4} {id : ThreadId}
    (started : before.startThread owner behavior caller stackObject params = some (id, after)) :
    before.entities.Relieves after.entities := by
  obtain ⟨_, _, rfl⟩ := startThread_eq started
  exact .modify fun _ => rfl

theorem relieves_spawn (state : State) (kind : EntityKind) (name : String)
    (template : EntityTemplate) :
    state.entities.Relieves (state.spawn kind name template).2.entities := by
  have made : state.entities.Relieves (state.entities.allocate kind name template).2 :=
    .allocate _ kind name template
  obtain ⟨_, same⟩ | ⟨_, _, _, _, started, same⟩ := state.spawn_cases kind name template
  · rw [same]
    exact made
  · rw [same]
    exact made.trans (relieves_startThread started)

end State

namespace Underway

theorem Applied.relieves {library : Library} {settings : Settings} {client : ClientId}
    {action : CommandAction} {before after : Underway}
    (applied : Applied library settings client before action after) :
    before.state.entities.Relieves after.state.entities := by
  cases applied with
  | @joins name id made vacant spawned =>
    have relieves := before.state.relieves_spawn .avatar name settings.avatar
    rw [spawned] at relieves
    exact relieves.trans (.modify fun _ => rfl)
  | leaves bound gone => exact State.relieves_despawn gone
  | interacts bound known may started => exact State.relieves_startThread started
  | moves position bound => exact .modify fun _ => rfl
  | _ => exact .refl _

/-! ## Instructions -/

theorem relieves_remove (underway : Underway) (id : EntityId) :
    underway.state.entities.Relieves (underway.remove id).state.entities := by
  rw [remove]
  cases gone : underway.state.despawn id with
  | none => exact .refl _
  | some removed => exact State.relieves_despawn gone

theorem relieves_removals (removals : List EntityId) (underway : Underway) :
    underway.state.entities.Relieves (removals.foldl remove underway).state.entities := by
  induction removals generalizing underway with
  | nil => exact .refl _
  | cons id rest inductionHypothesis =>
    exact (underway.relieves_remove id).trans (inductionHypothesis _)

end Underway

namespace State

variable {before middle after : State} {id : ThreadId}

/-- Nobody carries more than before, or one entity that carried nothing carries another one. -/
def Burdens (before after : State) : Prop :=
  before.entities.Relieves after.entities ∨
    ∃ carrier object, EntityTable.Loads carrier object before.entities after.entities

/-- What an instruction of a thread does makes at most its owner carry more. -/
theorem Acts.burdens (acts : before.Acts id after) : before.Burdens after := by
  cases acts with
  | idle => exact .inl (.refl _)
  | performs underway fetched action =>
    let context := fetched.context id underway
    rw [Underway.acted]
    obtain relieves | ⟨object, loads, nobody⟩ :=
      @Primitive.run_burdens context action fetched.resumed
    · exact .inl (relieves.trans (Underway.relieves_removals _ _))
    · refine .inr ⟨id.owner, object, ?_⟩
      rw [nobody]
      exact loads

theorem Places.burdenOf (places : before.Places id after) (entity : EntityId) :
    after.entities.burdenOf entity = before.entities.burdenOf entity := by
  cases places with
  | leaves => rfl
  | puts thread known => rfl
  | removes =>
    refine EntityTable.burdenOf_modify ?_ entity
    exact fun _ => rfl

theorem Burdens.places (burdens : before.Burdens middle) (places : middle.Places id after) :
    before.Burdens after := by
  obtain relieves | ⟨carrier, object, loads⟩ := burdens
  · exact .inl (relieves.trans (.of_burdens places.burdenOf))
  · refine .inr ⟨carrier, object, loads.apart, loads.free, fun entity => ?_⟩
    exact (places.burdenOf entity).trans (loads.burdens entity)

theorem Advances.burdens {library : Library} {settings : Settings}
    (advances : before.Advances library settings after) : before.Burdens after := by
  cases advances with
  | rest => exact .inl (.refl _)
  | command underway command => exact .inl (underway.applyCommand_applied _ _ command).relieves
  | instruct found =>
    obtain ⟨acted, acts, places⟩ := Underway.step_parts library _ _ _
    exact acts.burdens.places places
  | stop _ id => exact .inl (.of_burdens (Places.removes before).burdenOf)
  | finish _ tick => exact .inl (.refl _)

/-- **In a small step nobody carries more, or one entity picks another one up.** -/
theorem Moves.burdens {library : Library} {settings : Settings}
    (moves : before.Moves library settings after) : before.Burdens after := by
  cases moves with
  | advance advances => exact advances.burdens
  | spawn kind name template => exact .inl (before.relieves_spawn kind name template)
  | despawn gone => exact .inl (relieves_despawn gone)

/-- Whoever is picked up does not carry the one who picks it up, however many are between them. -/
def Unlooped (before after : State) : Prop :=
  ∀ carrier object, after.entities.Carries carrier object →
    ¬ before.entities.Carries carrier object →
      ¬ Relation.TransGen before.entities.Carries object carrier

/-- A small step makes a loop exactly if somebody is picked up who carries the other. -/
theorem Burdens.loopless_iff (burdens : before.Burdens after) (free : before.entities.Loopless) :
    after.entities.Loopless ↔ before.Unlooped after := by
  obtain relieves | ⟨carrier, object, loads⟩ := burdens
  · refine iff_of_true (relieves.loopless free) fun carrier object carries new => ?_
    exact absurd (relieves carrier object carries) new
  · rw [loads.loopless_iff free]
    constructor
    · intro forth first last carries new
      obtain old | ⟨rfl, rfl⟩ := loads.carries_iff.mp carries
      · exact absurd old new
      · exact forth
    · intro unlooped
      refine unlooped carrier object (loads.carries_iff.mpr (.inr ⟨rfl, rfl⟩)) fun carries => ?_
      exact Option.some_ne_none object (carries.symm.trans loads.free)

/-- States that follow one another in small steps are free of loops as long as no step makes one. -/
theorem loopless_iff_isChain {first : State} {states : List State}
    (steps : (first :: states).IsChain Burdens) (free : first.entities.Loopless) :
    (∀ state ∈ states, state.entities.Loopless) ↔ (first :: states).IsChain Unlooped := by
  induction states generalizing first with
  | nil => exact iff_of_true (fun _ member => absurd member List.not_mem_nil) (.singleton first)
  | cons next rest inductionHypothesis =>
    obtain ⟨step, later⟩ := List.isChain_cons_cons.mp steps
    rw [List.forall_mem_cons, List.isChain_cons_cons, step.loopless_iff free]
    exact and_congr_right fun unlooped =>
      inductionHypothesis later ((step.loopless_iff free).mpr unlooped)

end State

namespace Machine

variable {library : Library} {settings : Settings}

/-- **Nobody ends up carrying itself exactly if nobody ever picks up somebody by whom it is
carried**, however many are between them. That is so in every state that a machine passes, also in
the middle of its ticks. -/
theorem history_loopless (operations : List Operation) :
    (∀ state ∈ passed library settings operations, state.entities.Loopless) ↔
      (State.empty :: passed library settings operations).IsChain State.Unlooped :=
  State.loopless_iff_isChain
    ((history_path operations).isChain.imp fun _ _ moves => moves.burdens)
    EntityTable.loopless_empty

/-- A library in which the first entity picks the second one up, and the other way round. -/
def embraceLibrary : Library where
  behaviors := (Table.empty.insert 300 ⟨300, "lift second", 0, 0,
    [.ofOperand (.primitive (.setStackObject ⟨.literal, 2⟩)) 1 targetFalse,
      .ofOperand (.primitive (.carry .grab)) targetTrue targetFalse]⟩).insert 301
        ⟨301, "lift first", 0, 0,
          [.ofOperand (.primitive (.setStackObject ⟨.literal, 1⟩)) 1 targetFalse,
            .ofOperand (.primitive (.carry .grab)) targetTrue targetFalse]⟩

/-- Two entities pick each other up in one tick. Then each carries the other, and so itself. -/
theorem history_loopless_embrace :
    let operations : List Operation :=
      [.spawn .object "cup" ⟨some 300, [], ⟨0, 0⟩⟩, .spawn .object "box" ⟨some 301, [], ⟨0, 0⟩⟩,
        .tick [] 0]
    let entities := (history embraceLibrary ⟨10, default⟩ operations).machine.state.entities
    entities.Carries ⟨1⟩ ⟨2⟩ ∧ entities.Carries ⟨2⟩ ⟨1⟩ ∧ ¬ entities.Loopless := by
  intro operations entities
  have first : entities.Carries ⟨1⟩ ⟨2⟩ := by
    show entities.burdenOf ⟨1⟩ = some ⟨2⟩
    decide +kernel
  have second : entities.Carries ⟨2⟩ ⟨1⟩ := by
    show entities.burdenOf ⟨2⟩ = some ⟨1⟩
    decide +kernel
  exact ⟨first, second, fun free => free ⟨1⟩ (.tail (.single first) second)⟩

end Machine
end Lockstep
