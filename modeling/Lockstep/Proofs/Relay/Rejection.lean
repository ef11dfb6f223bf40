import Lockstep.Proofs.Relay.Run

/-!
# Rejected commands leave no mark

The relay takes up a command in steps: it checks the client's count, checks the action, notes the
count, and schedules the action (`Relay.attempt`). What a step has written stays, also when a later
one rejects the command. That a rejected command leaves no mark is so because both checks come
before everything that is written (`Relay.attempt_eq`).

A dialogue is all that a host is asked, each with its answer. Where what it rejects is not asked in
the first place, everything else gets the answer that it got, and the host is the same at the end
(`Host.dialogue_accepted`).
-/

set_option autoImplicit false

namespace Lockstep

namespace Relay

/-- Take up the command of a client, step by step. -/
def attempt (client : ClientId) (command : Command) (machine : Machine) :
    ExceptT Rejection (StateM Relay) SequencedCommand := do
  let relay ← get
  liftExcept (relay.checkCount client command.clientSeq)
  liftExcept (relay.checkAction client machine command.action)
  modify fun relay =>
    { relay with lastClientSeq := relay.lastClientSeq.insert client command.clientSeq }
  modifyGet fun relay => relay.schedule client command.action machine

/-- The steps give what `submit` gives, and leave the relay as it was if they reject the command. -/
theorem attempt_eq (relay : Relay) (client : ClientId) (command : Command) (machine : Machine) :
    (attempt client command machine).run.run relay =
      match relay.submit client command machine with
      | .ok (accepted, next) => (.ok accepted, next)
      | .error rejection => (.error rejection, relay) := by
  -- The relay is read before anything is written, so that both checks are of this very relay.
  have begun : (attempt client command machine).run.run relay =
      (do
        liftExcept (relay.checkCount client command.clientSeq)
        liftExcept (relay.checkAction client machine command.action)
        modify fun relay =>
          { relay with lastClientSeq := relay.lastClientSeq.insert client command.clientSeq }
        modifyGet fun relay => relay.schedule client command.action machine :
          ExceptT Rejection (StateM Relay) SequencedCommand).run.run relay := rfl
  rw [begun, submit]
  cases relay.checkCount client command.clientSeq with
  | error rejection => rfl
  | ok _ =>
    cases relay.checkAction client machine command.action with
    | error rejection => rfl
    | ok _ => rfl

end Relay

/-! ## Dialogues -/

/-- What a host answers to a call. -/
inductive HostAnswer where
  | submitted (outcome : Except Rejection SequencedCommand)
  /-- A client has gone; its leave if it had joined. -/
  | disconnected (leave : Option SequencedCommand)
  | stepped (report : TickReport) (trace : List TraceEntry)

/-- Whether a command was rejected. -/
def HostAnswer.rejects : HostAnswer → Bool
  | .submitted (.error _) => true
  | _ => false

namespace Host

/-- Answer a call. -/
def respond (host : Host) : HostCall → HostAnswer × Host
  | .submit client command =>
    let (outcome, relay) := (Relay.attempt client command host.machine).run.run host.relay
    (.submitted outcome, { host with relay })
  | .disconnect client =>
    let (leave, host) := host.disconnect client
    (.disconnected leave, host)
  | .step =>
    let (report, trace, host) := host.step
    (.stepped report trace, host)

/-- The calls of a host with the answers to them, and the host after the last one. -/
def dialogue (host : Host) : List HostCall → List (HostCall × HostAnswer) × Host
  | [] => ([], host)
  | call :: calls =>
    let (answer, next) := host.respond call
    let (rest, last) := next.dialogue calls
    ((call, answer) :: rest, last)

theorem dialogue_cons (host : Host) (call : HostCall) (calls : List HostCall) :
    host.dialogue (call :: calls) =
      ((call, (host.respond call).1) :: ((host.respond call).2.dialogue calls).1,
        ((host.respond call).2.dialogue calls).2) := rfl

/-- A host answers a command as it submits one, and a rejected one changes nothing. -/
theorem respond_submit (host : Host) (client : ClientId) (command : Command) :
    host.respond (.submit client command) =
      match host.submit client command with
      | .ok (accepted, next) => (.submitted (.ok accepted), next)
      | .error rejection => (.submitted (.error rejection), host) := by
  rw [respond, submit, Relay.attempt_eq]
  cases host.relay.submit client command host.machine with
  | error rejection => rfl
  | ok outcome => rfl

theorem respond_of_rejects {host : Host} {call : HostCall}
    (rejected : (host.respond call).1.rejects = true) : (host.respond call).2 = host := by
  cases call with
  | submit client command =>
    rw [respond_submit] at rejected ⊢
    cases submitted : host.submit client command with
    | error rejection => rfl
    | ok outcome =>
      rw [submitted] at rejected
      exact absurd rejected Bool.false_ne_true
  | disconnect client => exact absurd rejected Bool.false_ne_true
  | step => exact absurd rejected Bool.false_ne_true

/-- **Rejected commands are invisible.** Without the calls that were rejected, all others get the
answers that they got, and the host is the same at the end. -/
theorem dialogue_accepted (host : Host) (calls : List HostCall) :
    let (asked, last) := host.dialogue calls
    let accepted := asked.filter fun (_, answer) => !answer.rejects
    host.dialogue (accepted.map Prod.fst) = (accepted, last) := by
  induction calls generalizing host with
  | nil => rfl
  | cons call calls inductionHypothesis =>
    have rest := inductionHypothesis (host.respond call).2
    dsimp only at rest ⊢
    rw [dialogue_cons]
    cases rejected : (host.respond call).1.rejects with
    | true =>
      rw [respond_of_rejects rejected] at rest ⊢
      simpa [rejected] using rest
    | false =>
      simp [rejected, dialogue_cons, rest]

/-- A count that was rejected can be sent again; one that was accepted cannot. -/
example :
    let host : Host := ⟨default, Relay.new 1, 0⟩
    let leave : HostCall := .submit ⟨7⟩ ⟨1, 0, .leave⟩
    let join : HostCall := .submit ⟨7⟩ ⟨1, 0, .join "ada"⟩
    (host.dialogue [leave, join, join]).1.map (fun (_, answer) => answer.rejects) =
      [true, false, true] := by
  decide +kernel

end Host
end Lockstep
