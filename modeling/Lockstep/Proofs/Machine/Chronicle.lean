import Lockstep.Proofs.State.Snapshot
import Lockstep.Proofs.Thread.Keyed
import Lockstep.Proofs.Tick.Route

/-!
# Chronicles of machines

A machine may be put away as a snapshot at any point, and go on from it under other settings and
with another library. What happens to it then is a longer history (`Happening`), and a `Chronicle`
is that history with every state that the machine has been in on the way, also in the middle of its
ticks.

As long as the snapshots could be spelled, a chronicle is one route from the empty state to where
the machine is now, and that is a matter of edits alone (`Machine.chronicle_kept`). To go back to an
older snapshot is to go on from the chronicle that led to it.

A history is a chronicle without snapshots. It goes in small steps (`State.Moves`): those of its
ticks, and what a host does between them. So it is known what happens to a thread, or to what an
entity carries, between any two states that follow one another (`Machine.history_path`).
-/

set_option autoImplicit false

namespace Lockstep

/-- What happens to a machine: a host does something with it, or it goes on from its snapshot. -/
inductive Happening where
  | operate (operation : Operation)
  | restore (library : Library) (settings : Settings)

/-- A history, and the states that the machine has been in, first one first. -/
structure Chronicle extends History where
  passed : List State

/-- The states that a machine is in before an operation is done. -/
def Machine.during (machine : Machine) : Operation → List State
  | .tick commands seed => (machine.moments commands seed).map Underway.state
  | _ => []

/-- The states that a machine is in during one more operation, the last one included. -/
def History.statesIn (history : History) (operation : Operation) : List State :=
  history.machine.during operation ++ [(history.extend operation).machine.state]

namespace Chronicle

/-- A host has done something more. -/
def operate (chronicle : Chronicle) (operation : Operation) : Chronicle :=
  let next := chronicle.toHistory.extend operation
  ⟨next, chronicle.passed ++ (chronicle.machine.during operation ++ [next.machine.state])⟩

/-- The machine has gone on from a snapshot, unless that cannot be read. -/
def resume (chronicle : Chronicle) (library : Library) (settings : Settings) (snapshot : Bytes) :
    Chronicle :=
  match State.ofSnapshot? snapshot with
  | none => chronicle
  | some state => ⟨⟨⟨library, settings, state⟩, chronicle.trace⟩, chronicle.passed ++ [state]⟩

/-- The chronicle after something more has happened. -/
def extend (chronicle : Chronicle) : Happening → Chronicle
  | .operate operation => chronicle.operate operation
  | .restore library settings => chronicle.resume library settings chronicle.machine.state.snapshot

end Chronicle

/-- Nothing has happened yet. -/
def Chronicle.new (library : Library) (settings : Settings) : Chronicle :=
  ⟨⟨Machine.new library settings, []⟩, []⟩

/-- The chronicle of a machine that starts empty. -/
def Machine.chronicle (library : Library) (settings : Settings) (happenings : List Happening) :
    Chronicle :=
  happenings.foldl Chronicle.extend (Chronicle.new library settings)

/-- Whenever the machine goes on from a snapshot, that could be spelled. -/
def Chronicle.SnapshotsPackable (chronicle : Chronicle) : List Happening → Prop
  | [] => True
  | .operate operation :: rest => (chronicle.operate operation).SnapshotsPackable rest
  | .restore library settings :: rest =>
    chronicle.machine.state.Packable ∧
      (chronicle.resume library settings chronicle.machine.state.snapshot).SnapshotsPackable rest

instance decidableSnapshotsPackable : ∀ (happenings : List Happening) (chronicle : Chronicle),
    Decidable (chronicle.SnapshotsPackable happenings)
  | [], _ => inferInstanceAs (Decidable True)
  | .operate operation :: rest, chronicle =>
    decidableSnapshotsPackable rest (chronicle.operate operation)
  | .restore library settings :: rest, chronicle =>
    let _ := decidableSnapshotsPackable rest
      (chronicle.resume library settings chronicle.machine.state.snapshot)
    inferInstanceAs (Decidable (_ ∧ _))

/-! ## Operations -/

theorem State.despawn_passes {before after : State} {id : EntityId} {trace : List TraceEntry}
    (gone : before.despawn id = some (trace, after)) : before.Passes after :=
  (State.Changed.loud (.despawn gone)).passes fun _ refers =>
    .inl ((State.shrinks_despawn gone).refers refers)

/-- One step of a machine: a step of a tick, or something that a host does between two ticks. -/
inductive State.Moves (library : Library) (settings : Settings) : State → State → Prop where
  | advance {before after : State} : before.Advances library settings after →
      Moves library settings before after
  | spawn (state : State) (kind : EntityKind) (name : String) (template : EntityTemplate) :
      Moves library settings state (state.spawn kind name template).2
  | despawn {state next : State} {id : EntityId} {trace : List TraceEntry} :
      state.despawn id = some (trace, next) → Moves library settings state next

theorem State.Moves.passes {library : Library} {settings : Settings} {before after : State}
    (moves : before.Moves library settings after) : before.Passes after := by
  cases moves with
  | advance advances => exact advances.passes
  | spawn kind name template =>
    obtain ⟨threads, made⟩ := before.get?_spawn kind name template
    refine State.spawn_passes rfl (before.spawn_changed kind name template) (.refl _)
      (Table.contains_of_get? made) rfl rfl fun client id bound => ?_
    rw [State.avatarOf?, before.avatars_spawn] at bound
    exact .inl bound
  | despawn gone => exact State.despawn_passes gone

/-- An operation leads from one state to another through those that the machine is in meanwhile. -/
theorem History.extend_path (history : History) (operation : Operation) :
    Path (State.Moves history.machine.library history.machine.settings) history.machine.state
      (history.statesIn operation) (history.extend operation).machine.state := by
  cases operation with
  | spawn kind name template => exact .one (.spawn history.machine.state kind name template)
  | despawn id =>
    rw [statesIn, extend, Machine.despawn]
    cases gone : history.machine.state.despawn id with
    | none => exact .one (.advance (.rest history.machine.state))
    | some removed => exact .one (.despawn gone)
  | tick commands seed =>
    exact (history.machine.tick_path commands seed).mono fun _ _ advances => .advance advances

theorem History.extend_route (history : History) (operation : Operation) :
    State.Route history.machine.state (history.statesIn operation)
      (history.extend operation).machine.state :=
  (history.extend_path operation).route fun _ _ moves => moves.passes

/-! ## Whole chronicles -/

/-- What is kept in a chronicle: the machine came where it is on one route and by edits, and the
trace tells the player of sounds what they list. -/
structure Chronicle.Kept (chronicle : Chronicle) : Prop where
  route : State.Route State.empty chronicle.passed chronicle.machine.state
  edits : ∃ deeds, State.Edits State.empty deeds chronicle.machine.state ∧
    soundsHeard deeds = soundEvents .recording chronicle.trace

namespace Chronicle

variable {chronicle : Chronicle}

theorem Kept.operate (kept : chronicle.Kept) (operation : Operation) :
    (chronicle.operate operation).Kept := by
  obtain ⟨route, deeds, edits, heard⟩ := kept
  obtain ⟨events, ⟨more, rest, told, _⟩, trace⟩ := chronicle.toHistory.extend_changed operation
  refine ⟨route.trans (chronicle.toHistory.extend_route operation), deeds ++ more,
    edits.trans rest, ?_⟩
  rw [soundsHeard_append, heard, told]
  exact trace.symm

/-- A machine that goes on from its snapshot is where it was. -/
theorem Kept.resume (kept : chronicle.Kept) (packable : chronicle.machine.state.Packable)
    (library : Library) (settings : Settings) :
    (chronicle.resume library settings chronicle.machine.state.snapshot).Kept := by
  obtain ⟨route, deeds, edits, heard⟩ := kept
  rw [Chronicle.resume, State.ofSnapshot?_snapshot (edits.keyed nofun) packable]
  exact ⟨route.trans (.one (State.passes_refl _)), deeds, edits, heard⟩

theorem Kept.extend_all {happenings : List Happening} (kept : chronicle.Kept)
    (packable : chronicle.SnapshotsPackable happenings) :
    (happenings.foldl extend chronicle).Kept := by
  induction happenings generalizing chronicle with
  | nil => exact kept
  | cons happening rest inductionHypothesis =>
    rw [List.foldl_cons]
    cases happening with
    | operate operation => exact inductionHypothesis (kept.operate operation) packable
    | restore library settings =>
      rw [extend]
      exact inductionHypothesis (kept.resume packable.1 library settings) packable.2

end Chronicle

/-- **A chronicle is one route**, and goes by edits alone. -/
theorem Machine.chronicle_kept {library : Library} {settings : Settings}
    (happenings : List Happening)
    (packable : (Chronicle.new library settings).SnapshotsPackable happenings) :
    (chronicle library settings happenings).Kept :=
  Chronicle.Kept.extend_all ⟨.here _, [], .none _, rfl⟩ packable

/-! ## Histories as chronicles -/

namespace Machine

variable {library : Library} {settings : Settings}

/-- The states that a machine is in during a history, first one first. -/
def passed (library : Library) (settings : Settings) (operations : List Operation) : List State :=
  (chronicle library settings (operations.map .operate)).passed

theorem chronicle_operate (operations : List Operation) :
    (chronicle library settings (operations.map .operate)).toHistory =
      history library settings operations := by
  rw [chronicle, history, List.foldl_map]
  exact (List.foldl_hom Chronicle.toHistory fun _ _ => rfl).symm

/-- The states that a machine is in during one more operation. -/
theorem passed_concat (operations : List Operation) (operation : Operation) :
    passed library settings (operations ++ [operation]) =
      passed library settings operations ++
        (history library settings operations).statesIn operation := by
  rw [passed, passed, ← chronicle_operate, List.map_append, chronicle, List.foldl_append]
  rfl

/-- **A history goes in small steps.** -/
theorem history_path (operations : List Operation) :
    Path (State.Moves library settings) State.empty (passed library settings operations)
      (history library settings operations).machine.state := by
  induction operations using List.reverseRecOn with
  | nil => exact .here State.empty
  | append_singleton operations operation inductionHypothesis =>
    have more := (history library settings operations).extend_path operation
    rw [history_library, history_settings] at more
    rw [passed_concat, history_concat]
    exact inductionHypothesis.trans more

/-- **A history is one route.** -/
theorem history_route (operations : List Operation) :
    State.Route State.empty (passed library settings operations)
      (history library settings operations).machine.state :=
  (history_path operations).route fun _ _ moves => moves.passes

/-- What was passed stays so. -/
theorem passed_append (earlier later : List Operation) :
    passed library settings earlier <+: passed library settings (earlier ++ later) := by
  induction later using List.reverseRecOn with
  | nil => exact (List.append_nil earlier).symm ▸ List.prefix_rfl
  | append_singleton later operation inductionHypothesis =>
    rw [← List.append_assoc, passed_concat]
    exact inductionHypothesis.trans (List.prefix_append _ _)

/-- The moments of a tick are passed one after the other. -/
theorem moments_passed (earlier later : List Operation) (commands : List SequencedCommand)
    (seed : UInt64) :
    passed library settings earlier ++
        ((history library settings earlier).machine.moments commands seed).map Underway.state <+:
      passed library settings (earlier ++ .tick commands seed :: later) := by
  have upTo := @passed_append library settings (earlier ++ [.tick commands seed]) later
  rw [passed_concat, List.append_assoc] at upTo
  refine List.IsPrefix.trans ?_ upTo
  exact (List.prefix_append_right_inj _).mpr (List.prefix_append _ _)

/-- The moments of a tick are passed. -/
theorem mem_passed_of_moment {earlier later : List Operation} {commands : List SequencedCommand}
    {seed : UInt64} {moment : Underway}
    (during : moment ∈ (history library settings earlier).machine.moments commands seed) :
    moment.state ∈ passed library settings (earlier ++ .tick commands seed :: later) := by
  exact (moments_passed earlier later commands seed).mem
    (List.mem_append_right _ (List.mem_map_of_mem during))

end Machine
end Lockstep
