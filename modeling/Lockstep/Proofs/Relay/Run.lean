import Mathlib.Data.List.Induction
import Lockstep.Simulation

/-!
# Runs of hosts

Clients submit commands and disconnect, and the host steps from tick to tick, in any order. A
`HostRun` is the host after some of these calls, with the commands that were accepted and the
reports of the ticks. What every call keeps holds after every run (`Host.run_induction`).

To the queue of commands a call does one of three things: it leaves it alone, it accepts one
command (`Relay.Accepts`), or it takes what is due.
-/

set_option autoImplicit false

namespace Lockstep

/-- What can happen to a host. -/
inductive HostCall where
  | submit (client : ClientId) (command : Command)
  | disconnect (client : ClientId)
  | step

/-- A command that was accepted, and the tick of the machine at that time. -/
structure Acceptance where
  command : SequencedCommand
  tick : UInt64

/-- A host, the commands that it has accepted, and the reports of its ticks, first ones first. -/
structure HostRun where
  host : Host
  accepted : List Acceptance
  reports : List TickReport

namespace HostRun

/-- The run with one more acceptance. -/
def accept (run : HostRun) (command : SequencedCommand) (host : Host) : HostRun :=
  { run with host, accepted := run.accepted ++ [⟨command, run.host.machine.state.tick⟩] }

/-- The run after one more call. -/
def extend (run : HostRun) : HostCall → HostRun
  | .submit client command =>
    match run.host.submit client command with
    | .ok (command, host) => run.accept command host
    | .error _ => run
  | .disconnect client =>
    match run.host.disconnect client with
    | (some command, host) => run.accept command host
    | (none, host) => { run with host }
  | .step =>
    { run with host := run.host.step.2.2, reports := run.reports ++ [run.host.step.1] }

/-- What a call does to a run. -/
inductive Extends (run : HostRun) : HostCall → HostRun → Prop where
  /-- The command of a client is rejected. -/
  | rejects {client : ClientId} {request : Command} {rejection : Rejection} :
      run.host.relay.submit client request run.host.machine = .error rejection →
        Extends run (.submit client request) run
  /-- The command of a client is accepted. -/
  | accepts {client : ClientId} {request : Command} {command : SequencedCommand} {relay : Relay} :
      run.host.relay.submit client request run.host.machine = .ok (command, relay) →
        Extends run (.submit client request) (run.accept command { run.host with relay })
  /-- A client has gone, and is made to leave. -/
  | dismisses {client : ClientId} {command : SequencedCommand} {relay : Relay} :
      run.host.relay.disconnect client run.host.machine = (some command, relay) →
        Extends run (.disconnect client) (run.accept command { run.host with relay })
  /-- A client has gone that had not joined. -/
  | ignores {client : ClientId} {relay : Relay} :
      run.host.relay.disconnect client run.host.machine = (none, relay) →
        Extends run (.disconnect client) { run with host := { run.host with relay } }
  | steps : Extends run .step (run.extend .step)

theorem extends_extend (run : HostRun) (call : HostCall) : run.Extends call (run.extend call) := by
  cases call with
  | submit client request =>
    rw [extend, Host.submit]
    cases submitted : run.host.relay.submit client request run.host.machine with
    | error rejection => exact .rejects submitted
    | ok outcome => exact .accepts submitted
  | disconnect client =>
    rw [extend, Host.disconnect]
    cases disconnected : run.host.relay.disconnect client run.host.machine with
    | mk outcome relay =>
      cases outcome with
      | none => exact .ignores disconnected
      | some command => exact .dismisses disconnected
  | step => exact .steps

/-- The commands that were accepted. -/
def commands (run : HostRun) : List SequencedCommand := run.accepted.map Acceptance.command

/-- The tick of the machine. -/
def tick (run : HostRun) : UInt64 := run.host.machine.state.tick

end HostRun

namespace Host

/-- The run of a host through some calls. -/
def run (host : Host) (calls : List HostCall) : HostRun :=
  calls.foldl HostRun.extend ⟨host, [], []⟩

theorem run_concat (host : Host) (calls : List HostCall) (call : HostCall) :
    host.run (calls ++ [call]) = (host.run calls).extend call := by
  rw [run, List.foldl_append]
  rfl

/-- What holds at the start and is kept by every call holds after every run. -/
theorem run_induction {host : Host} {motive : List HostCall → HostRun → Prop}
    (start : motive [] ⟨host, [], []⟩)
    (extend : ∀ calls call run, motive calls run → motive (calls ++ [call]) (run.extend call))
    (calls : List HostCall) : motive calls (host.run calls) := by
  induction calls using List.reverseRecOn with
  | nil => exact start
  | append_singleton calls call inductionHypothesis =>
    rw [run_concat]
    exact extend calls call _ inductionHypothesis

end Host

/-! ## What calls do to the queue -/

namespace Relay

/-- A command is accepted: it gets the next number and is put at the end of its tick. -/
structure Accepts (relay : Relay) (machine : Machine) (command : SequencedCommand)
    (next : Relay) : Prop where
  seq : command.seq = relay.nextSeq + 1
  tick : command.tick = machine.state.tick + relay.lead
  nextSeq : next.nextSeq = relay.nextSeq + 1
  lead : next.lead = relay.lead
  pending : next.pending = relay.pending.insert command.tick
    ((relay.pending.get? command.tick).getD [] ++ [command])

/-- Nothing happens to the queue. -/
structure SameQueue (relay next : Relay) : Prop where
  nextSeq : next.nextSeq = relay.nextSeq
  lead : next.lead = relay.lead
  pending : next.pending = relay.pending

theorem mark_sameQueue (relay : Relay) (client : ClientId) (action : CommandAction) :
    relay.SameQueue (relay.mark client action) := by
  cases action <;> exact ⟨rfl, rfl, rfl⟩

theorem unmark_sameQueue (relay : Relay) (command : SequencedCommand) :
    relay.SameQueue (relay.unmark command) := by
  obtain ⟨seq, tick, client, action⟩ := command
  cases action <;> exact ⟨rfl, rfl, rfl⟩

theorem unmarks_sameQueue (relay : Relay) (commands : List SequencedCommand) :
    relay.SameQueue (commands.foldl unmark relay) := by
  induction commands generalizing relay with
  | nil => exact ⟨rfl, rfl, rfl⟩
  | cons command rest inductionHypothesis =>
    have first := relay.unmark_sameQueue command
    have others := inductionHypothesis (relay.unmark command)
    exact ⟨others.nextSeq.trans first.nextSeq, others.lead.trans first.lead,
      others.pending.trans first.pending⟩

theorem schedule_accepts (relay : Relay) (client : ClientId) (action : CommandAction)
    (machine : Machine) :
    relay.Accepts machine (relay.schedule client action machine).1
      (relay.schedule client action machine).2 := by
  have marked := relay.mark_sameQueue client action
  refine ⟨rfl, rfl, rfl, marked.lead, ?_⟩
  rw [schedule]
  dsimp only
  rw [marked.pending]

/-- A command that is accepted has passed both checks and is scheduled. -/
theorem submit_eq {relay next : Relay} {client : ClientId} {request : Command}
    {machine : Machine} {command : SequencedCommand}
    (submitted : relay.submit client request machine = .ok (command, next)) :
    relay.checkAction client machine request.action = .ok () ∧
      Relay.schedule
        { relay with lastClientSeq := relay.lastClientSeq.insert client request.clientSeq }
        client request.action machine = (command, next) := by
  rw [submit] at submitted
  cases count : relay.checkCount client request.clientSeq with
  | error rejection => exact absurd (count ▸ submitted) (by simp [bind, Except.bind])
  | ok checked =>
    cases action : relay.checkAction client machine request.action with
    | error rejection =>
      rw [count, action] at submitted
      exact absurd submitted (by simp [bind, Except.bind])
    | ok permitted =>
      rw [count, action] at submitted
      exact ⟨rfl, Except.ok.inj submitted⟩

theorem submit_accepts {relay next : Relay} {client : ClientId} {request : Command}
    {machine : Machine} {command : SequencedCommand}
    (submitted : relay.submit client request machine = .ok (command, next)) :
    relay.Accepts machine command next := by
  obtain ⟨rfl, rfl⟩ := Prod.mk.inj (submit_eq submitted).2
  obtain ⟨seq, tick, nextSeq, lead, pending⟩ := schedule_accepts
    { relay with lastClientSeq := relay.lastClientSeq.insert client request.clientSeq }
    client request.action machine
  exact ⟨seq, tick, nextSeq, lead, pending⟩

/-- A client that has joined is made to leave when it goes. -/
theorem disconnect_eq {relay next : Relay} {client : ClientId} {machine : Machine}
    {command : SequencedCommand}
    (disconnected : relay.disconnect client machine = (some command, next)) :
    Relay.schedule { relay with lastClientSeq := relay.lastClientSeq.erase client }
      client .leave machine = (command, next) := by
  rw [disconnect] at disconnected
  dsimp only at disconnected
  split at disconnected
  · obtain ⟨same, rfl⟩ := Prod.mk.inj disconnected
    exact Prod.ext (Option.some.inj same) rfl
  · exact absurd (Prod.mk.inj disconnected).1 (by simp)

theorem disconnect_accepts {relay next : Relay} {client : ClientId} {machine : Machine}
    {command : SequencedCommand}
    (disconnected : relay.disconnect client machine = (some command, next)) :
    relay.Accepts machine command next := by
  obtain ⟨rfl, rfl⟩ := Prod.mk.inj (disconnect_eq disconnected)
  obtain ⟨seq, tick, nextSeq, lead, pending⟩ := schedule_accepts
    { relay with lastClientSeq := relay.lastClientSeq.erase client } client .leave machine
  exact ⟨seq, tick, nextSeq, lead, pending⟩

/-- A client that has not joined is only forgotten when it goes. -/
theorem disconnect_none {relay next : Relay} {client : ClientId} {machine : Machine}
    (disconnected : relay.disconnect client machine = (none, next)) :
    ¬ relay.isJoined client machine.state = true ∧
      next = { relay with
        lastClientSeq := relay.lastClientSeq.erase client
        joining := relay.joining.erase client } := by
  rw [disconnect] at disconnected
  dsimp only at disconnected
  by_cases joined : isJoined { relay with lastClientSeq := relay.lastClientSeq.erase client } client
      machine.state = true
  · rw [if_pos joined] at disconnected
    exact absurd (Prod.mk.inj disconnected).1 (Option.some_ne_none _)
  · rw [if_neg joined] at disconnected
    exact ⟨joined, (Prod.mk.inj disconnected).2.symm⟩

theorem disconnect_sameQueue {relay next : Relay} {client : ClientId} {machine : Machine}
    (disconnected : relay.disconnect client machine = (none, next)) : relay.SameQueue next := by
  obtain ⟨_, rfl⟩ := disconnect_none disconnected
  exact ⟨rfl, rfl, rfl⟩

/-- What is due is taken in order, and the rest stays. -/
theorem takeForTick_takes (relay : Relay) {tick : UInt64} {due : List SequencedCommand}
    (taken : (relay.pending.filter fun pinned _ => pinned < tick + 1).values.flatten = due)
    (pinned : ∀ command ∈ due, command.tick = tick) :
    (relay.takeForTick tick).1 = SequencedCommand.sort due ∧
      SameQueue { relay with pending := relay.pending.filter fun pinned _ => tick + 1 ≤ pinned }
        (relay.takeForTick tick).2.2 := by
  have unmarked := relay.unmarks_sameQueue due
  have repinned : (due.map fun command => { command with tick }) = due := by
    refine (List.map_congr_left fun command member => ?_).trans (List.map_id due)
    rw [← pinned command member]
    rfl
  rw [takeForTick]
  dsimp only
  rw [taken, repinned, unmarked.pending]
  exact ⟨rfl, unmarked.nextSeq, unmarked.lead, rfl⟩

end Relay
end Lockstep
