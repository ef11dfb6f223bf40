import Lockstep.Replica
import Lockstep.Proofs.Command.Order
import Lockstep.Proofs.Machine.History
import Lockstep.Proofs.State.Snapshot
import Lockstep.Proofs.Thread.Keyed

/-!
# Replicas stay in step

A replica that was welcomed with a snapshot and is then sent every later tick in order ends in the
state of the server (`Replica.in_step_after_welcome`), whatever it was told before the welcome, and
whatever else it is told between the ticks: messages to its client, how avatars look, and ticks
that it has applied already.

A replica is in step (`Replica.InStep`) when its machine is the server's and its router has let
through the server's tick last. A welcome establishes this from any replica with the library and
the avatars of the server, because a snapshot loses nothing of a state. A tick keeps it, because a
tick depends on nothing but the machine, the commands and the seed, and because commands that are
in order stay as they are when they are put in order again. All other messages of the stream leave
the machine and the router alone.
-/

set_option autoImplicit false

namespace Lockstep

/-! ## Servers -/

/-- What a tick is run with: its commands and its seed. -/
structure TickInput where
  commands : List SequencedCommand
  seed : UInt64

namespace Machine

/-- The machine after some ticks. -/
def afterTicks (machine : Machine) : List TickInput → Machine
  | [] => machine
  | input :: rest => (machine.runTick input.commands input.seed).machine.afterTicks rest

/-- The reports of some ticks. -/
def reports (machine : Machine) : List TickInput → List TickReport
  | [] => []
  | input :: rest =>
    let outcome := machine.runTick input.commands input.seed
    outcome.report :: outcome.machine.reports rest

/-- The welcome that a server sends to a client. -/
def welcomeOf (machine : Machine) (client : ClientId) : Welcome where
  client
  protocol := protocolVersion
  tick := machine.state.tick
  instructionBudget := machine.settings.instructionBudget
  snapshot := machine.state.snapshot

end Machine

/-! ## Streams -/

/-- A message that reaches a replica after its welcome. -/
inductive Delivery where
  /-- The broadcast of the next tick. -/
  | tick (report : TickReport)
  /-- A broadcast of a tick that is not later than the last one. -/
  | repeated (broadcast : BroadcastTick)
  | rejection (clientSeq : UInt32) (reason : String)
  | notice (notice : Notice)
  | avatar (data : AvatarData)

namespace Delivery

/-- The message itself. -/
def message : Delivery → ServerMessage
  | .tick report => .broadcastTick report.broadcast
  | .repeated broadcast => .broadcastTick broadcast
  | .rejection clientSeq reason => .direct (.commandRejected clientSeq reason)
  | .notice content => .direct (.notice content)
  | .avatar data => .avatarData data

/-- What a replica in step answers. -/
def Answered : Delivery → Except ReplicaError ReplicaEvent → Prop
  | .tick report, answer => answer = .ok (.tickApplied report.tick true)
  | .repeated _, answer => ∃ reason, answer = .ok (.dropped reason)
  | .rejection clientSeq reason, answer => answer = .ok (.rejected clientSeq reason)
  | .notice content, answer => answer = .ok (.notice content)
  | .avatar data, answer => answer = .ok (.avatar data.avatar.entity)

end Delivery

/-- A stream with the reports of a server in their order, and anything between them that a server
may send to a client: `last` is the tick before the first of the reports. -/
inductive Interleaved : UInt64 → List TickReport → List Delivery → Prop where
  | done (last : UInt64) : Interleaved last [] []
  | tick {last : UInt64} {report : TickReport} {reports : List TickReport}
      {stream : List Delivery} : Interleaved report.tick reports stream →
        Interleaved last (report :: reports) (.tick report :: stream)
  | repeated {last : UInt64} {broadcast : BroadcastTick} {reports : List TickReport}
      {stream : List Delivery} : broadcast.tick ≤ last → Interleaved last reports stream →
        Interleaved last reports (.repeated broadcast :: stream)
  | rejection {last : UInt64} {reports : List TickReport} {stream : List Delivery}
      (clientSeq : UInt32) (reason : String) : Interleaved last reports stream →
        Interleaved last reports (.rejection clientSeq reason :: stream)
  | notice {last : UInt64} {reports : List TickReport} {stream : List Delivery}
      (notice : Notice) : Interleaved last reports stream →
        Interleaved last reports (.notice notice :: stream)
  | avatar {last : UInt64} {reports : List TickReport} {stream : List Delivery}
      (data : AvatarData) : Interleaved last reports stream →
        Interleaved last reports (.avatar data :: stream)

/-! ## Handling many messages -/

namespace Replica

/-- The replica after some messages. -/
def afterMessages (replica : Replica) : List ServerMessage → Replica
  | [] => replica
  | message :: rest => (replica.handle message).2.2.afterMessages rest

/-- What a replica answers to some messages. -/
def answers (replica : Replica) :
    List ServerMessage → List (Except ReplicaError ReplicaEvent)
  | [] => []
  | message :: rest => (replica.handle message).1 :: (replica.handle message).2.2.answers rest

/-! ## What no message changes -/

theorem handle_library (replica : Replica) (message : ServerMessage) :
    (replica.handle message).2.2.library = replica.library ∧
      (replica.handle message).2.2.settings.avatar = replica.settings.avatar := by
  unfold handle
  split
  · exact ⟨rfl, rfl⟩
  · cases message with
    | broadcastTick tick =>
      simp only [applyTick]
      split
      · exact ⟨rfl, rfl⟩
      · split <;> exact ⟨rfl, rfl⟩
    | direct content =>
      cases content with
      | welcome content =>
        simp only [handleDirect, welcome]
        split
        · exact ⟨rfl, rfl⟩
        · split <;> exact ⟨rfl, rfl⟩
      | commandRejected clientSeq reason => exact ⟨rfl, rfl⟩
      | notice notice => exact ⟨rfl, rfl⟩
    | avatarData data => exact ⟨rfl, rfl⟩

/-- A replica keeps its library and its avatars, whatever it is sent. -/
theorem afterMessages_library (replica : Replica) (messages : List ServerMessage) :
    (replica.afterMessages messages).library = replica.library ∧
      (replica.afterMessages messages).settings.avatar = replica.settings.avatar := by
  induction messages generalizing replica with
  | nil => exact ⟨rfl, rfl⟩
  | cons message messages inductionHypothesis =>
    obtain ⟨library, avatar⟩ := inductionHypothesis (replica.handle message).2.2
    obtain ⟨sameLibrary, sameAvatar⟩ := replica.handle_library message
    exact ⟨library.trans sameLibrary, avatar.trans sameAvatar⟩

/-! ## In step -/

/-- A replica whose machine is the server's, and which has let the server's tick through last. -/
structure InStep (server : Machine) (replica : Replica) : Prop where
  machine : replica.machine = some server
  router : replica.router.lastApplied = some server.state.tick

/-- A welcome brings a replica in step. -/
theorem welcome_inStep {server : Machine} (keyed : server.state.threads.Keyed)
    (packable : server.state.Packable) {replica : Replica} (library : replica.library = server.library)
    (avatar : replica.settings.avatar = server.settings.avatar) (client : ClientId) :
    let handled := replica.handle (.direct (.welcome (server.welcomeOf client)))
    handled.1 = .ok (.welcomed client server.state.tick) ∧ InStep server handled.2.2 ∧
      handled.2.2.desyncs = replica.desyncs := by
  have read := State.ofSnapshot?_snapshot keyed packable
  have settings : (⟨server.settings.instructionBudget, replica.settings.avatar⟩ : Settings) =
      server.settings := by rw [avatar]
  simp only [handle, TickRouter.accept, handleDirect, welcome, Machine.welcomeOf, read]
  refine ⟨rfl, ⟨?_, rfl⟩, rfl⟩
  show some (Machine.mk replica.library
    ⟨server.settings.instructionBudget, replica.settings.avatar⟩ server.state) = some server
  rw [library, settings]

/-- A tick brings a machine as far with the commands in order as with the commands that came. -/
theorem runTick_sort (machine : Machine) (commands : List SequencedCommand) (seed : UInt64) :
    machine.runTick (SequencedCommand.sort commands) seed = machine.runTick commands seed := by
  rw [Machine.runTick, SequencedCommand.sort_sort]
  rfl

/-- The broadcast of the next tick keeps a replica in step. -/
theorem InStep.tick {server : Machine} {replica : Replica} (inStep : InStep server replica)
    (input : TickInput) (room : server.state.tick < server.state.tick + 1) :
    let outcome := server.runTick input.commands input.seed
    let handled := replica.handle (.broadcastTick outcome.report.broadcast)
    handled.1 = .ok (.tickApplied outcome.report.tick true) ∧ InStep outcome.machine handled.2.2 ∧
      handled.2.2.desyncs = replica.desyncs := by
  intro outcome handled
  obtain ⟨machine, router⟩ := inStep
  have notSame : ¬ server.state.tick + 1 = server.state.tick := (UInt64.ne_of_lt room).symm
  have notEarlier : ¬ server.state.tick + 1 < server.state.tick := UInt64.lt_asymm room
  have admitted : replica.router.accept (.broadcastTick outcome.report.broadcast) =
      .ok ⟨some (server.state.tick + 1)⟩ := by
    show replica.router.acceptTick (server.state.tick + 1) = _
    rw [TickRouter.acceptTick, router]
    dsimp only
    rw [if_neg notSame, if_neg notEarlier]
  have replayed : server.runTick outcome.report.broadcast.commands outcome.report.broadcast.seed =
      outcome := runTick_sort server input.commands input.seed
  have sameHash : outcome.report.stateHash = outcome.report.broadcast.stateHash := rfl
  have applied : handled = (.ok (.tickApplied outcome.report.tick true), outcome.trace ++ [],
      { replica with
        router := ⟨some (server.state.tick + 1)⟩
        machine := some outcome.machine
        applied := replica.applied + 1 }) := by
    show replica.handle _ = _
    rw [handle, admitted]
    dsimp only
    rw [applyTick]
    dsimp only
    rw [machine]
    dsimp only
    rw [if_neg (fun different => different rfl), replayed]
    rw [if_pos sameHash, if_pos sameHash, decide_eq_true sameHash]
    rfl
  rw [applied]
  exact ⟨rfl, ⟨rfl, rfl⟩, rfl⟩

/-- A broadcast that is not later than the last tick is dropped, and changes nothing. -/
theorem InStep.repeated {server : Machine} {replica : Replica} (inStep : InStep server replica)
    {broadcast : BroadcastTick} (earlier : broadcast.tick ≤ server.state.tick) :
    ∃ reason, (replica.handle (.broadcastTick broadcast)).1 = .ok (.dropped reason) ∧
      (replica.handle (.broadcastTick broadcast)).2.2 = replica := by
  have refused : ∃ reason, replica.router.accept (.broadcastTick broadcast) = .error reason := by
    show ∃ reason, replica.router.acceptTick broadcast.tick = .error reason
    rw [TickRouter.acceptTick, inStep.router]
    dsimp only
    by_cases same : broadcast.tick = server.state.tick
    · exact ⟨_, if_pos same⟩
    · rw [if_neg same, if_pos (UInt64.lt_of_le_of_ne earlier same)]
      exact ⟨_, rfl⟩
  obtain ⟨reason, refused⟩ := refused
  refine ⟨reason, ?_⟩
  rw [handle, refused]
  exact ⟨rfl, rfl⟩

/-! ## Runs of a server -/

/-- A stream with the reports of the next ticks of the server keeps a replica in step. -/
theorem InStep.stream {ticks : List TickInput} {stream : List Delivery} {last : UInt64}
    {reports : List TickReport} (interleaved : Interleaved last reports stream) :
    ∀ (server : Machine) (replica : Replica), InStep server replica →
      server.reports ticks = reports → server.state.tick = last →
      server.state.tick.toNat + ticks.length < 2 ^ 64 →
      let messages := stream.map Delivery.message
      List.Forall₂ Delivery.Answered stream (replica.answers messages) ∧
        InStep (server.afterTicks ticks) (replica.afterMessages messages) ∧
        (replica.afterMessages messages).desyncs = replica.desyncs := by
  induction interleaved generalizing ticks with
  | done last =>
    intro server replica inStep same _ _
    cases ticks with
    | nil => exact ⟨.nil, inStep, rfl⟩
    | cons input rest => exact absurd same (List.cons_ne_nil _ _)
  | tick interleaved inductionHypothesis =>
    intro server replica inStep same _ room
    cases ticks with
    | nil => exact absurd same.symm (List.cons_ne_nil _ _)
    | cons input rest =>
      obtain ⟨rfl, rfl⟩ := List.cons.inj same
      have next : (server.state.tick + 1).toNat = server.state.tick.toNat + 1 := by
        rw [List.length_cons] at room
        exact toNat_next (by omega)
      obtain ⟨answer, stepped, desyncs⟩ := inStep.tick input
        (UInt64.lt_iff_toNat_lt.mpr (next ▸ Nat.lt_succ_self _))
      obtain ⟨answers, final, finalDesyncs⟩ := inductionHypothesis _ _ stepped rfl rfl (by
        show (server.state.tick + 1).toNat + _ < _
        rw [List.length_cons] at room
        omega)
      exact ⟨.cons answer answers, final, finalDesyncs.trans desyncs⟩
  | repeated earlier interleaved inductionHypothesis =>
    intro server replica inStep same lastTick room
    obtain ⟨reason, answer, unchanged⟩ := inStep.repeated (lastTick ▸ earlier)
    obtain ⟨answers, final, sameDesyncs⟩ :=
      inductionHypothesis server _ (unchanged.symm ▸ inStep) same lastTick room
    exact ⟨.cons ⟨reason, answer⟩ answers, final, sameDesyncs.trans (by rw [unchanged])⟩
  | rejection clientSeq reason interleaved inductionHypothesis =>
    intro server replica inStep same lastTick room
    obtain ⟨answers, final, desyncs⟩ := inductionHypothesis server
      (replica.handle (.direct (.commandRejected clientSeq reason))).2.2
      ⟨inStep.machine, inStep.router⟩ same lastTick room
    exact ⟨.cons rfl answers, final, desyncs⟩
  | notice content interleaved inductionHypothesis =>
    intro server replica inStep same lastTick room
    obtain ⟨answers, final, desyncs⟩ := inductionHypothesis server
      (replica.handle (.direct (.notice content))).2.2
      ⟨inStep.machine, inStep.router⟩ same lastTick room
    exact ⟨.cons rfl answers, final, desyncs⟩
  | avatar data interleaved inductionHypothesis =>
    intro server replica inStep same lastTick room
    obtain ⟨answers, final, desyncs⟩ := inductionHypothesis server
      (replica.handle (.avatarData data)).2.2
      ⟨inStep.machine, inStep.router⟩ same lastTick room
    exact ⟨.cons rfl answers, final, desyncs⟩

/-- **A replica that was welcomed is in step from then on.** The server has made and removed
entities and run ticks before the welcome, and runs more ticks after it. The replica has been told
anything before the welcome, and after it the later ticks in order, with anything else between
them. Then every tick is applied and found in sync, every broadcast that is not later is dropped,
and the replica ends in the state of the server. -/
theorem in_step_after_welcome (library : Library) (settings : Settings) (before : List Operation)
    (localBudget : UInt32) (earlier : List ServerMessage) (client : ClientId)
    (ticks : List TickInput) (stream : List Delivery)
    (packable : (Machine.history library settings before).machine.state.Packable)
    (room : (Machine.history library settings before).machine.state.tick.toNat + ticks.length <
      2 ^ 64)
    (interleaved : Interleaved (Machine.history library settings before).machine.state.tick
      ((Machine.history library settings before).machine.reports ticks) stream) :
    let server := (Machine.history library settings before).machine
    let joining := (Replica.new library
      { settings with instructionBudget := localBudget }).afterMessages earlier
    let handled := joining.handle (.direct (.welcome (server.welcomeOf client)))
    let messages := stream.map Delivery.message
    let final := handled.2.2.afterMessages messages
    handled.1 = .ok (.welcomed client server.state.tick) ∧
      List.Forall₂ Delivery.Answered stream (handled.2.2.answers messages) ∧
      final.desyncs = joining.desyncs ∧
      final.machine.map Machine.state = some (server.afterTicks ticks).state := by
  intro server joining handled messages final
  obtain ⟨sameLibrary, sameAvatar⟩ := afterMessages_library
    (Replica.new library { settings with instructionBudget := localBudget }) earlier
  have ownLibrary : joining.library = server.library :=
    sameLibrary.trans (Machine.history_library before).symm
  have ownAvatar : joining.settings.avatar = server.settings.avatar := by
    rw [Machine.history_settings before]
    exact sameAvatar
  obtain ⟨welcomed, inStep, desyncs⟩ :=
    @welcome_inStep server (Machine.history_keyed before) packable joining ownLibrary ownAvatar
      client
  have same : joining.handle (.direct (.welcome (server.welcomeOf client))) = handled := rfl
  rw [same] at welcomed inStep desyncs
  obtain ⟨answers, stepped, sameDesyncs⟩ :=
    InStep.stream interleaved server handled.2.2 inStep rfl rfl room
  refine ⟨welcomed, answers, sameDesyncs.trans desyncs, ?_⟩
  rw [stepped.machine]
  rfl

/-- A lamp stands in the world, a client is welcomed, another one joins in the next tick, and that
tick is broadcast twice. -/
theorem in_step_after_join :
    let lamp : List Operation := [.spawn .object "lamp" default]
    let server := (Machine.history default default lamp).machine
    let ticks : List TickInput := [⟨[⟨1, 1, ⟨2⟩, .join "guest"⟩], 7⟩]
    let report := (server.runTick [⟨1, 1, ⟨2⟩, .join "guest"⟩] 7).report
    let stream : List Delivery := [.notice ⟨⟨1⟩, 3⟩, .tick report, .repeated report.broadcast]
    let joining := (Replica.new default { (default : Settings) with
      instructionBudget := 500 }).afterMessages [.direct (.notice ⟨⟨1⟩, 2⟩)]
    let handled := joining.handle (.direct (.welcome (server.welcomeOf ⟨1⟩)))
    let final := handled.2.2.afterMessages (stream.map Delivery.message)
    server.state.Packable ∧ Interleaved server.state.tick (server.reports ticks) stream ∧
      final.desyncs = joining.desyncs ∧
      final.machine.map Machine.state = some (server.afterTicks ticks).state := by
  have packable : (Machine.history default default
      [.spawn .object "lamp" default]).machine.state.Packable := by
    refine ⟨by decide, fun id entity held => ?_, by decide, fun id thread held => ?_, by decide,
      fun owner channels held => ?_, by decide⟩
    · have each : ∀ entry ∈ (Machine.history default default
          [.spawn .object "lamp" default]).machine.state.entities.entities.entries,
          entry.2.name.utf8ByteSize < 0x100000000 ∧ entry.2.relationships.size < 0x100000000 ∧
            entry.2.sounds.length < 0x100000000 ∧ entry.2.threads.length < 0x100000000 := by
        decide
      obtain ⟨name, relationships, sounds, threads⟩ := each _ (Table.mem_entries_iff.mpr held)
      exact ⟨name, relationships, sounds, threads⟩
    · exact absurd (Table.mem_entries_iff.mpr held) List.not_mem_nil
    · exact absurd (Table.mem_entries_iff.mpr held) List.not_mem_nil
  have interleaved (notice : Notice) {last : UInt64} {report : TickReport} :
      Interleaved last [report] [.notice notice, .tick report, .repeated report.broadcast] :=
    .notice _ (.tick (.repeated (UInt64.le_refl _) (.done _)))
  have inStep := in_step_after_welcome default default [.spawn .object "lamp" default] 500
    [.direct (.notice ⟨⟨1⟩, 2⟩)] ⟨1⟩ [⟨[⟨1, 1, ⟨2⟩, .join "guest"⟩], 7⟩] _
    packable (by decide) (interleaved ⟨⟨1⟩, 3⟩)
  exact ⟨packable, interleaved _, inStep.2.2⟩

end Replica
end Lockstep
