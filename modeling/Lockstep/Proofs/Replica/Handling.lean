import Lockstep.Proofs.Replica.InStep

/-!
# What a message does to a replica

A message that a replica handles has one of ten outcomes (`Replica.Handles`), each with its answer
and with the replica afterwards. Proofs about replicas look at these outcomes, and at nothing inside
of `Replica.handle`.

The router lets a tick through exactly when it is later than the last one
(`TickRouter.acceptTick_eq_ok_iff`). It takes note of the tick before the replica has looked at it,
so it may have noted a tick that was not applied.
-/

set_option autoImplicit false

namespace Lockstep

/-! ## Routers -/

namespace TickRouter

/-- A tick is later than the last one, if there is a last one. -/
def Admits (router : TickRouter) (tick : UInt64) : Prop :=
  ∀ last, router.lastApplied = some last → last < tick

theorem acceptTick_eq_ok_iff {router next : TickRouter} {tick : UInt64} :
    router.acceptTick tick = .ok next ↔ router.Admits tick ∧ next = ⟨some tick⟩ := by
  rw [acceptTick, Admits]
  cases router.lastApplied with
  | none => simp [eq_comm]
  | some last =>
    dsimp only
    by_cases same : tick = last
    · simp [same]
    · by_cases earlier : tick < last
      · simp [same, earlier, UInt64.lt_asymm earlier]
      · have later : last < tick :=
          UInt64.lt_of_le_of_ne (UInt64.not_lt.mp earlier) (Ne.symm same)
        simp [same, earlier, later, eq_comm]

theorem not_admits_of_acceptTick {router : TickRouter} {tick : UInt64} {reason : RouteError}
    (refused : router.acceptTick tick = .error reason) : ¬ router.Admits tick := by
  intro admits
  have accepted := acceptTick_eq_ok_iff.mpr ⟨admits, rfl⟩
  exact nomatch refused.symm.trans accepted

/-- Once a tick has been let through, the first tick of all is not let through any more. -/
theorem Admits.pos {router : TickRouter} {tick : UInt64} (admits : router.Admits tick)
    (used : router.lastApplied ≠ none) : 0 < tick := by
  obtain ⟨last, noted⟩ := Option.ne_none_iff_exists'.mp used
  exact UInt64.lt_of_le_of_lt (UInt64.zero_le) (admits last noted)

end TickRouter

namespace Replica

/-! ## Answers -/

/-- Whether an answer says that the replica has started from a snapshot. -/
def startsOver : Except ReplicaError ReplicaEvent → Bool
  | .ok (.welcomed ..) => true
  | _ => false

/-- The tick that was applied according to an answer, and whether it was found in sync. -/
def application? : Except ReplicaError ReplicaEvent → Option (UInt64 × Bool)
  | .ok (.tickApplied tick inSync) => some (tick, inSync)
  | _ => none

/-! ## Outcomes -/

/-- The replica after a tick was run. -/
def apply (replica : Replica) (machine : Machine) (tick : BroadcastTick) : Replica :=
  let outcome := machine.runTick tick.commands tick.seed
  { replica with
    router := ⟨some tick.tick⟩
    machine := some outcome.machine
    applied := replica.applied + 1
    desyncs :=
      if outcome.report.stateHash = tick.stateHash then replica.desyncs else replica.desyncs + 1 }

/-- The replica that starts from the state of a welcome. -/
def restart (replica : Replica) (content : Welcome) (state : State) : Replica :=
  let settings := { replica.settings with instructionBudget := content.instructionBudget }
  { replica with
    settings
    machine := some ⟨replica.library, settings, state⟩
    client := some content.client
    router := .startingAfter content.tick }

/-- What a message can do: the answer, and the replica afterwards. -/
inductive Handles (replica : Replica) :
    ServerMessage → Except ReplicaError ReplicaEvent → Replica → Prop where
  /-- The router does not let a tick through. -/
  | drops {tick : BroadcastTick} {reason : RouteError} :
      ¬ replica.router.Admits tick.tick →
        Handles replica (.broadcastTick tick) (.ok (.dropped reason)) replica
  /-- There is no state yet. -/
  | waits {tick : BroadcastTick} : replica.machine = none →
      Handles replica (.broadcastTick tick) (.ok (.notReady tick.tick))
        { replica with router := .new }
  /-- A tick does not follow the last one. -/
  | skips {tick : BroadcastTick} {machine : Machine} : replica.router.Admits tick.tick →
      replica.machine = some machine → tick.tick ≠ machine.state.tick + 1 →
        Handles replica (.broadcastTick tick)
          (.error (.tickGap tick.tick machine.state.tick))
          { replica with router := ⟨some tick.tick⟩ }
  | applies {tick : BroadcastTick} {machine : Machine} : replica.router.Admits tick.tick →
      replica.machine = some machine → tick.tick = machine.state.tick + 1 →
        Handles replica (.broadcastTick tick)
          (.ok (.tickApplied tick.tick ((machine.runTick tick.commands tick.seed).report.stateHash =
            tick.stateHash)))
          (replica.apply machine tick)
  /-- The host of a welcome speaks another protocol. -/
  | mismatches {content : Welcome} : content.protocol ≠ protocolVersion →
      Handles replica (.direct (.welcome content))
        (.error (.protocolMismatch content.protocol)) replica
  /-- The snapshot of a welcome is no state. -/
  | misreads {content : Welcome} : State.ofSnapshot? content.snapshot = none →
      Handles replica (.direct (.welcome content)) (.error .snapshotDecode) replica
  | restarts {content : Welcome} {state : State} : content.protocol = protocolVersion →
      State.ofSnapshot? content.snapshot = some state →
        Handles replica (.direct (.welcome content))
          (.ok (.welcomed content.client content.tick)) (replica.restart content state)
  | hearsRejection {clientSeq : UInt32} {reason : String} :
      Handles replica (.direct (.commandRejected clientSeq reason))
        (.ok (.rejected clientSeq reason))
        { replica with rejections := replica.rejections ++ [(clientSeq, reason)] }
  | hearsNotice {notice : Notice} :
      Handles replica (.direct (.notice notice)) (.ok (.notice notice))
        { replica with notices := replica.notices ++ [notice] }
  | seesAvatar {data : AvatarData} :
      Handles replica (.avatarData data) (.ok (.avatar data.avatar.entity))
        { replica with avatars := replica.avatars.insert data.avatar.entity data.avatar }

theorem applyTick_handles {replica : Replica} {tick : BroadcastTick}
    (admits : replica.router.Admits tick.tick) :
    let handled := { replica with router := ⟨some tick.tick⟩ : Replica }.applyTick tick
    replica.Handles (.broadcastTick tick) handled.1 handled.2.2 := by
  intro handled
  cases held : replica.machine with
  | none =>
    have same : handled = (.ok (.notReady tick.tick), [], { replica with router := .new }) := by
      simp only [handled, applyTick, held]
    rw [same]
    exact .waits held
  | some machine =>
    by_cases follows : tick.tick = machine.state.tick + 1
    · have applied := @Handles.applies replica tick machine admits held follows
      simp only [handled, applyTick, held, if_neg (not_not_intro follows)]
      exact applied
    · have skipped := @Handles.skips replica tick machine admits held follows
      simp only [handled, applyTick, held, if_pos follows] at skipped ⊢
      exact skipped

theorem welcome_handles (replica : Replica) (content : Welcome) :
    replica.Handles (.direct (.welcome content)) (replica.welcome content).1
      (replica.welcome content).2.2 := by
  rw [welcome]
  by_cases spoken : content.protocol = protocolVersion
  · rw [if_neg (not_not_intro spoken)]
    cases read : State.ofSnapshot? content.snapshot with
    | none => exact .misreads read
    | some state => exact .restarts spoken read
  · exact (if_pos spoken).symm ▸ .mismatches spoken

/-- **Every message that is handled has one of these outcomes.** -/
theorem handles_handle (replica : Replica) (message : ServerMessage) :
    replica.Handles message (replica.handle message).1 (replica.handle message).2.2 := by
  cases message with
  | broadcastTick tick =>
    cases accepted : replica.router.acceptTick tick.tick with
    | error reason =>
      simp only [handle, TickRouter.accept, accepted]
      exact .drops (TickRouter.not_admits_of_acceptTick accepted)
    | ok router =>
      obtain ⟨admits, rfl⟩ := TickRouter.acceptTick_eq_ok_iff.mp accepted
      simp only [handle, TickRouter.accept, accepted]
      exact applyTick_handles admits
  | direct content =>
    cases content with
    | welcome content => exact replica.welcome_handles content
    | commandRejected clientSeq reason => exact .hearsRejection
    | notice notice => exact .hearsNotice
  | avatarData data => exact .seesAvatar

end Replica
end Lockstep
