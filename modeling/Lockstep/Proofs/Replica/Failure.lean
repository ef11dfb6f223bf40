import Lockstep.Proofs.Replica.Handling

/-!
# Messages that cannot be handled

A message that cannot be handled leaves the replica as it was, with one exception
(`Replica.handle_failed`): a tick that does not follow the last one is noted by the router. If it is
ahead of the next tick, the router keeps out all ticks that are missing, also when they come later
and in order, and every later tick does not follow. So nothing is applied any more until there is
another welcome (`Replica.OutOfReach`).
-/

set_option autoImplicit false

namespace Lockstep.Replica

/-- The next tick of a replica is one that its router does not let through. -/
def OutOfReach (machine : Machine) (replica : Replica) : Prop :=
  replica.machine = some machine ∧
    ∃ last, replica.router.lastApplied = some last ∧ machine.state.tick < last

variable {machine : Machine} {replica next : Replica}

/-- Whatever the replica is sent but a welcome, its next tick stays out of reach, and nothing is
applied. -/
theorem OutOfReach.step {message : ServerMessage} {answer : Except ReplicaError ReplicaEvent}
    (stuck : OutOfReach machine replica) (handles : replica.Handles message answer next)
    (goesOn : startsOver answer = false) :
    OutOfReach machine next ∧ next.applied = replica.applied := by
  obtain ⟨held, last, noted, ahead⟩ := stuck
  have same : OutOfReach machine replica := ⟨held, last, noted, ahead⟩
  cases handles with
  | drops late => exact ⟨same, rfl⟩
  | waits absent => exact nomatch absent.symm.trans held
  | skips admits _ apart =>
    exact ⟨⟨held, _, rfl, UInt64.lt_trans ahead (admits last noted)⟩, rfl⟩
  | applies admits other follows =>
    -- The tick that follows is not later than the one that was let through last.
    obtain rfl := Option.some.inj (held.symm.trans other)
    have later := UInt64.lt_iff_toNat_lt.mp (admits last noted)
    rw [follows, UInt64.toNat_add] at later
    have bound := UInt64.lt_iff_toNat_lt.mp ahead
    have least := Nat.mod_le (machine.state.tick.toNat + (1 : UInt64).toNat) (2 ^ 64)
    rw [show (1 : UInt64).toNat = 1 from rfl] at later least
    omega
  | mismatches other => exact ⟨same, rfl⟩
  | misreads unread => exact ⟨same, rfl⟩
  | restarts spoken read => exact nomatch goesOn
  | hearsRejection => exact ⟨⟨held, last, noted, ahead⟩, rfl⟩
  | hearsNotice => exact ⟨⟨held, last, noted, ahead⟩, rfl⟩
  | seesAvatar => exact ⟨⟨held, last, noted, ahead⟩, rfl⟩

theorem OutOfReach.run {messages : List ServerMessage} (stuck : OutOfReach machine replica)
    (goesOn : ∀ answer ∈ replica.answers messages, startsOver answer = false) :
    OutOfReach machine (replica.afterMessages messages) ∧
      (replica.afterMessages messages).applied = replica.applied := by
  induction messages generalizing replica with
  | nil => exact ⟨stuck, rfl⟩
  | cons message rest inductionHypothesis =>
    obtain ⟨first, others⟩ := List.forall_mem_cons.mp goesOn
    obtain ⟨still, count⟩ := stuck.step (replica.handles_handle message) first
    obtain ⟨final, total⟩ := inductionHypothesis still others
    exact ⟨final, total.trans count⟩

/-- The tick that follows is applied if the router lets it through. -/
theorem applies_next {tick : BroadcastTick} (held : replica.machine = some machine)
    (admits : replica.router.Admits tick.tick) (follows : tick.tick = machine.state.tick + 1) :
    ∃ inSync, (replica.handle (.broadcastTick tick)).1 = .ok (.tickApplied tick.tick inSync) := by
  have handles := replica.handles_handle (.broadcastTick tick)
  generalize (replica.handle (.broadcastTick tick)).1 = answer,
    (replica.handle (.broadcastTick tick)).2.2 = next at handles
  cases handles with
  | drops late => exact absurd admits late
  | waits absent => exact nomatch absent.symm.trans held
  | skips _ other apart =>
    obtain rfl := Option.some.inj (held.symm.trans other)
    exact absurd follows apart
  | applies => exact ⟨_, rfl⟩

/-- **A message that cannot be handled leaves the replica as it was**, but for the router after a
tick that does not follow the last one. Then the router has noted the tick. If it was an earlier
one, the tick that is next is still applied when it comes. If it was a later one, then nothing is
applied until the replica starts over, whatever comes. -/
theorem handle_failed (replica : Replica) (message : ServerMessage) (error : ReplicaError)
    (failed : (replica.handle message).1 = .error error) :
    let after := (replica.handle message).2.2
    after = { replica with router := after.router } ∧
      match error with
      | .tickGap tick localTick =>
        after.router.lastApplied = some tick ∧
          (tick ≤ localTick → ∀ broadcast : BroadcastTick, localTick < broadcast.tick →
            broadcast.tick = localTick + 1 → ∃ inSync,
              (after.handle (.broadcastTick broadcast)).1 =
                .ok (.tickApplied broadcast.tick inSync)) ∧
          (localTick < tick → ∀ messages,
            (∀ answer ∈ after.answers messages, startsOver answer = false) →
              (after.afterMessages messages).machine = replica.machine ∧
                (after.afterMessages messages).applied = replica.applied)
      | .protocolMismatch _ => after.router = replica.router
      | .snapshotDecode => after.router = replica.router := by
  intro after
  have handles : replica.Handles message (replica.handle message).1 after :=
    replica.handles_handle message
  rw [failed] at handles
  clear_value after
  cases handles with
  | mismatches other => exact ⟨rfl, rfl⟩
  | misreads unread => exact ⟨rfl, rfl⟩
  | @skips tick machine admits held apart =>
    refine ⟨rfl, rfl, fun past broadcast later follows => ?_, fun ahead messages goesOn => ?_⟩
    · refine applies_next held (fun last noted => ?_) follows
      rw [← Option.some.inj noted]
      exact UInt64.lt_of_le_of_lt past later
    · have stuck : OutOfReach machine { replica with router := ⟨some tick.tick⟩ } :=
        ⟨held, _, rfl, ahead⟩
      obtain ⟨⟨kept, _⟩, count⟩ := stuck.run goesOn
      exact ⟨kept.trans held.symm, count⟩

/-- A replica that has been welcomed before the first tick is sent the second one. After that the
first and the second one are not applied, although both come in order. -/
theorem handle_failed_gap :
    let server := Machine.new default default
    let first := server.runTick [⟨1, 1, ⟨2⟩, .join "ava"⟩] 7
    let second := first.machine.runTick [] 8
    let ticks : List ServerMessage :=
      [.broadcastTick first.report.broadcast, .broadcastTick second.report.broadcast]
    let joined := (Replica.new default default).afterMessages
      [.direct (.welcome (server.welcomeOf ⟨1⟩))]
    let handled := joined.handle (.broadcastTick second.report.broadcast)
    handled.1 = .error (.tickGap 2 0) ∧
      (handled.2.2.afterMessages ticks).machine = joined.machine ∧
      (handled.2.2.afterMessages ticks).applied = 0 := by
  intro server first second ticks joined handled
  have failed : handled.1 = .error (.tickGap 2 0) := by decide +kernel
  have ahead : (0 : UInt64) < 2 := by decide
  have goesOn : ∀ answer ∈ handled.2.2.answers ticks, startsOver answer = false := by
    decide +kernel
  have none : joined.applied = 0 := by decide +kernel
  -- Nothing below is computed, so the runs are forgotten.
  clear_value ticks joined second
  obtain ⟨_, _, _, stuck⟩ := handle_failed joined _ _ failed
  obtain ⟨machine, count⟩ := stuck ahead ticks goesOn
  exact ⟨failed, machine, count.trans none⟩

/-- A replica that would apply the first tick drops it, as older than the last one, once the second
tick has come too early. -/
theorem handle_failed_forgets :
    let server := Machine.new default default
    let first := server.runTick [] 7
    let second := first.machine.runTick [] 8
    let joined := (Replica.new default default).afterMessages
      [.direct (.welcome (server.welcomeOf ⟨1⟩))]
    let handled := joined.handle (.broadcastTick second.report.broadcast)
    (joined.handle (.broadcastTick first.report.broadcast)).1 = .ok (.tickApplied 1 true) ∧
      handled.1 = .error (.tickGap 2 0) ∧ handled.2.2 ≠ joined ∧
      (handled.2.2.handle (.broadcastTick first.report.broadcast)).1 =
        .ok (.dropped (.staleTick 1 2)) := by
  decide +kernel

end Lockstep.Replica
