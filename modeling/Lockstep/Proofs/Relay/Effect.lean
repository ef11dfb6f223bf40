import Lockstep.Proofs.Avatar.Effect
import Lockstep.Proofs.Machine.Chronicle
import Lockstep.Proofs.Machine.Churn
import Lockstep.Proofs.Relay.Departure
import Lockstep.Proofs.State.Births

/-!
# Accepted commands take effect

With a lead of one tick, every command that a relay accepts does what it is to do when its tick
comes (`Host.run_takesEffect`), whatever other commands are in that tick, and whatever behaviors did
to avatars in earlier ones.

The invariant is `HostRun.Foreseen`: every command that is waiting will find its client as it needs
it once those before it have taken effect. A command that is accepted comes last, and what the relay
then says of its client is what the commands before it will have led to. All commands that are
waiting are due in the next tick, so no turn of a thread comes between their acceptance and their
tick, and nothing is waiting after it.
-/

set_option autoImplicit false

namespace Lockstep

/-! ## Acceptance -/

/-- The relay lets through what its client may ask for: a join when it has not joined, and anything
else when it has. -/
theorem Relay.isJoined_of_checkAction {relay : Relay} {client : ClientId} {machine : Machine}
    {action : CommandAction} (permitted : relay.checkAction client machine action = .ok ()) :
    relay.isJoined client machine.state = action.ofJoined := by
  cases action <;> grind [checkAction, CommandAction.ofJoined]

/-- A client that is made to leave has joined. -/
theorem Relay.isJoined_of_disconnect {relay next : Relay} {client : ClientId} {machine : Machine}
    {command : SequencedCommand}
    (disconnected : relay.disconnect client machine = (some command, next)) :
    relay.isJoined client machine.state = true := by
  rw [disconnect] at disconnected
  dsimp only at disconnected
  split at disconnected
  · assumption
  · exact absurd (Prod.mk.inj disconnected).1 (Option.some_ne_none command).symm

namespace HostRun

variable {run : HostRun} {first : Nat} {lead : UInt64}

/-! ## What is foreseen -/

/-- Whether a client will have an avatar when some commands have taken effect. -/
def foresees (run : HostRun) (commands : List SequencedCommand) (client : ClientId) : Bool :=
  (SequencedCommand.standingOf? commands client).getD
    (run.host.machine.state.avatarOf? client).isSome

/-- Every command that is waiting will find its client with an avatar or, if it is a join, without
one, when the commands before it have taken effect. -/
def Foreseen (run : HostRun) : Prop :=
  ∀ earlier command later, run.waiting = earlier ++ command :: later →
    run.foresees earlier command.client = command.action.ofJoined

/-- A command that is accepted is waiting behind the others. -/
theorem Foreseen.accept (foreseen : run.Foreseen) {command : SequencedCommand} {host : Host}
    (machine : host.machine = run.host.machine)
    (waiting : (run.accept command host).waiting = run.waiting ++ [command])
    (fits : run.foresees run.waiting command.client = command.action.ofJoined) :
    (run.accept command host).Foreseen := by
  intro earlier other later split
  have same (commands : List SequencedCommand) (client : ClientId) :
      (run.accept command host).foresees commands client = run.foresees commands client := by
    show Option.getD _ (host.machine.state.avatarOf? client).isSome = _
    rw [machine]
    rfl
  rw [waiting] at split
  rw [same]
  obtain rfl | ⟨sooner, last, rfl⟩ := List.eq_nil_or_concat later
  · obtain ⟨rfl, alone⟩ := List.append_inj' split rfl
    obtain rfl := List.singleton_inj.mp alone
    exact fits
  · rw [List.concat_eq_append, ← List.cons_append, ← List.append_assoc] at split
    obtain ⟨before, _⟩ := List.append_inj' split rfl
    exact foreseen earlier other sooner before

/-- With a lead of one tick, nothing is waiting any more when the next tick has come. -/
theorem Delivering.waiting_extend_step (delivering : run.Delivering first lead)
    (short : lead.toNat = 1) (room : run.tick.toNat + 1 < 2 ^ 64) :
    (run.extend .step).waiting = [] := by
  have next : (run.tick + 1).toNat = run.tick.toNat + 1 := toNat_next room
  refine List.filter_eq_nil_iff.mpr fun command member later => ?_
  obtain ⟨acceptance, accepted, rfl⟩ := List.mem_map.mp member
  obtain ⟨pinned, past⟩ := delivering.pinned acceptance accepted
  have later : (run.tick + 1).toNat < acceptance.command.tick.toNat :=
    UInt64.lt_iff_toNat_lt.mp (of_decide_eq_true later)
  omega

/-- Whatever is called, the commands that are waiting are foreseen. -/
theorem Foreseen.extend (foreseen : run.Foreseen) (delivering : run.Delivering first lead)
    (marked : ∀ client, run.Marked client) (short : lead.toNat = 1) {call : HostCall}
    (extended : (run.extend call).Delivering first lead)
    (room : run.tick.toNat + HostCall.steps [call] < 2 ^ 64) : (run.extend call).Foreseen := by
  have ahead : 1 ≤ lead.toNat := Nat.le_of_eq short.symm
  -- The relay says of a client what the commands that are waiting will have led to.
  have knows (client : ClientId) : run.host.relay.isJoined client run.host.machine.state =
      run.foresees run.waiting client := by
    rw [(marked client).isJoined_eq delivering ahead, delivering.not_overtaken short,
      delivering.standing_eq]
    rfl
  have made := run.extends_extend call
  generalize same : run.extend call = next at made extended ⊢
  cases made with
  | rejects submitted => exact foreseen
  | accepts submitted =>
    refine foreseen.accept rfl (Delivering.waiting_accept ahead extended rfl) ?_
    obtain ⟨permitted, scheduled⟩ := Relay.submit_eq submitted
    obtain ⟨rfl, rfl⟩ := Prod.mk.inj scheduled
    exact (knows _).symm.trans (Relay.isJoined_of_checkAction permitted)
  | dismisses disconnected =>
    refine foreseen.accept rfl (Delivering.waiting_accept ahead extended rfl) ?_
    have joined := Relay.isJoined_of_disconnect disconnected
    obtain ⟨rfl, rfl⟩ := Prod.mk.inj (Relay.disconnect_eq disconnected)
    exact (knows _).symm.trans joined
  | ignores disconnected => exact foreseen
  | steps =>
    intro earlier command later split
    have one : HostCall.steps [.step] = 1 := rfl
    rw [delivering.waiting_extend_step short (by omega)] at split
    exact absurd split.symm (List.append_ne_nil_of_right_ne_nil _ (List.cons_ne_nil _ _))

/-! ## The next tick -/

/-- With a lead of one tick, all that is waiting is due in the next tick. -/
theorem Delivering.due_eq_waiting (delivering : run.Delivering first lead)
    (short : lead.toNat = 1) (room : run.tick.toNat + 1 < 2 ^ 64) :
    run.commands.filter (·.tick = run.tick + 1) = run.waiting := by
  rw [delivering.waiting_step room, delivering.waiting_extend_step short room, List.append_nil]

/-- What is waiting is what the next tick applies. -/
theorem Delivering.step_commands (delivering : run.Delivering first lead)
    (short : lead.toNat = 1) (room : run.tick.toNat + 2 < 2 ^ 64) :
    run.host.step.1.commands = run.waiting := by
  have served := (delivering.step room).served run.host.step.1
    (List.mem_append_right _ (List.mem_singleton_self _))
  exact served.trans (delivering.due_eq_waiting short (Nat.lt_of_succ_lt room))

/-- A call adds to the accepted commands, if it does anything to them. -/
theorem extend_commands (run : HostRun) (call : HostCall) :
    ∃ more, (run.extend call).commands = run.commands ++ more := by
  have extended := run.extends_extend call
  generalize run.extend call = next at extended ⊢
  cases extended with
  | accepts submitted => exact ⟨_, List.map_append⟩
  | dismisses disconnected => exact ⟨_, List.map_append⟩
  | _ => exact ⟨[], (List.append_nil _).symm⟩

/-- A command whose tick has come was applied before, or is applied in this step. -/
theorem Delivering.applied_extend (ahead : 1 ≤ lead.toNat) {call : HostCall}
    (extended : (run.extend call).Delivering first lead)
    (room : run.tick.toNat + HostCall.steps [call] + lead.toNat < 2 ^ 64)
    {acceptance : Acceptance} (member : acceptance ∈ (run.extend call).accepted)
    (past : acceptance.command.tick ≤ (run.extend call).tick) :
    (acceptance ∈ run.accepted ∧ acceptance.command.tick ≤ run.tick) ∨
      (call = .step ∧ run.tick + 1 = acceptance.command.tick ∧
        acceptance.command ∈ run.host.step.1.commands) := by
  have waits := extended.later ahead member
  have made := run.extends_extend call
  generalize same : run.extend call = next at made extended member past
  have accepts {command : SequencedCommand}
      (known : acceptance ∈ run.accepted ++ [⟨command, run.tick⟩])
      (past : acceptance.command.tick ≤ run.tick) :
      acceptance ∈ run.accepted ∧ acceptance.command.tick ≤ run.tick := by
    refine ⟨(List.mem_append.mp known).resolve_right fun single => ?_, past⟩
    rw [List.mem_singleton.mp single] at waits past
    exact absurd (UInt64.lt_of_lt_of_le waits past) (UInt64.lt_irrefl _)
  cases made with
  | rejects submitted => exact .inl ⟨member, past⟩
  | accepts submitted => exact .inl (accepts member past)
  | dismisses disconnected => exact .inl (accepts member past)
  | ignores disconnected => exact .inl ⟨member, past⟩
  | steps =>
    by_cases gone : acceptance.command.tick ≤ run.tick
    · exact .inl ⟨member, gone⟩
    · have one : HostCall.steps [.step] = 1 := rfl
      have next : (run.tick + 1).toNat = run.tick.toNat + 1 := toNat_next (by omega)
      have now : run.tick + 1 = acceptance.command.tick := by
        have reached : acceptance.command.tick.toNat ≤ (run.tick + 1).toNat :=
          UInt64.le_iff_toNat_le.mp past
        have later := UInt64.lt_iff_toNat_lt.mp (UInt64.not_le.mp gone)
        exact UInt64.toNat_inj.mp (by omega)
      refine .inr ⟨rfl, now, ?_⟩
      rw [extended.served run.host.step.1
        (List.mem_append_right _ (List.mem_singleton_self _))]
      exact List.mem_filter.mpr ⟨List.mem_map_of_mem member, decide_eq_true now.symm⟩

/-- What is foreseen comes true: a command takes effect after those before it. -/
theorem Foreseen.takesEffect (foreseen : run.Foreseen) {made : Nat}
    (reached : run.host.machine.state.Reached made)
    (few : made + SequencedCommand.mostEntities run.waiting < 2 ^ 32)
    {earlier later : List SequencedCommand} {command : SequencedCommand}
    (split : run.waiting = earlier ++ command :: later) (seed : UInt64) :
    command.action.TakesEffect command.client (run.host.machine.begin earlier seed).state
      (run.host.machine.begin (earlier ++ [command]) seed).state := by
  have counted : SequencedCommand.mostEntities run.waiting =
      SequencedCommand.mostEntities earlier +
        (command.action.mostEntities + SequencedCommand.mostEntities later) := by
    rw [split, SequencedCommand.mostEntities_append]
    rfl
  obtain ⟨_, changed, _⟩ := run.host.machine.edited_begin earlier seed
  have standing := @Underway.standing_commands run.host.machine.library run.host.machine.settings
    (run.host.machine.dawn seed) made reached earlier (by omega) command.client
  have applied : run.host.machine.begin (earlier ++ [command]) seed =
      Underway.applyCommand run.host.machine.library run.host.machine.settings
        (run.host.machine.begin earlier seed) command := by
    rw [Machine.begin, List.foldl_append]
    rfl
  rw [applied]
  exact Underway.applyCommand_takesEffect (reached.changed changed) command (by omega)
    (standing.trans (foreseen earlier command later split))

end HostRun

/-! ## Runs -/

namespace Host

/-- With a lead of one tick, what is waiting is always foreseen. -/
theorem run_foreseen (machine : Machine) (seed : UInt64) (calls : List HostCall)
    (few : calls.length < 2 ^ 64)
    (room : machine.state.tick.toNat + HostCall.steps calls + 1 < 2 ^ 64) :
    ((Host.mk machine (Relay.new 1) seed).run calls).Foreseen := by
  induction calls using List.reverseRecOn with
  | nil =>
    intro earlier command later split
    exact absurd split.symm (List.append_ne_nil_of_right_ne_nil _ (List.cons_ne_nil _ _))
  | append_singleton calls call inductionHypothesis =>
    have steps : HostCall.steps (calls ++ [call]) = HostCall.steps calls + HostCall.steps [call] :=
      List.countP_append
    obtain ⟨extended, _, _⟩ := run_delivering machine 1 seed _ few room
    rw [List.length_append, List.length_singleton] at few
    rw [steps] at room
    have fewBefore : calls.length < 2 ^ 64 := Nat.lt_of_succ_lt few
    have roomBefore : machine.state.tick.toNat + HostCall.steps calls + 1 < 2 ^ 64 := by omega
    obtain ⟨delivering, reports, _⟩ := run_delivering machine 1 seed calls fewBefore roomBefore
    have now := delivering.now
    rw [run_concat] at extended ⊢
    refine (inductionHypothesis fewBefore roomBefore).extend delivering (fun client => ?_) rfl
      extended (by omega)
    exact run_marked machine 1 seed calls client fewBefore roomBefore

/-- One of some calls is the step to the tick of a command, and applies the command. -/
def AppliesIn (host : Host) (calls : List HostCall) (command : SequencedCommand) : Prop :=
  ∃ sooner rest, calls = sooner ++ .step :: rest ∧
    (host.run sooner).tick + 1 = command.tick ∧
    command ∈ (host.run sooner).host.step.1.commands

/-- Every accepted command whose tick has come was applied. -/
theorem run_applies (machine : Machine) (lead seed : UInt64) (calls : List HostCall)
    (few : calls.length < 2 ^ 64)
    (room : machine.state.tick.toNat + HostCall.steps calls + (max lead 1).toNat < 2 ^ 64) :
    let host := Host.mk machine (Relay.new lead) seed
    ∀ acceptance ∈ (host.run calls).accepted,
      acceptance.command.tick ≤ (host.run calls).tick →
        host.AppliesIn calls acceptance.command := by
  intro host
  induction calls using List.reverseRecOn with
  | nil => exact fun _ member => absurd member List.not_mem_nil
  | append_singleton calls call inductionHypothesis =>
    intro acceptance member past
    have steps : HostCall.steps (calls ++ [call]) = HostCall.steps calls + HostCall.steps [call] :=
      List.countP_append
    obtain ⟨extended, _, _⟩ := run_delivering machine lead seed _ few room
    rw [List.length_append, List.length_singleton] at few
    rw [steps] at room
    obtain ⟨delivering, reports, _⟩ :=
      run_delivering machine lead seed calls (by omega) (by omega)
    have now := delivering.now
    rw [run_concat] at extended member past
    obtain ⟨known, gone⟩ | ⟨rfl, here, applied⟩ :=
      HostRun.Delivering.applied_extend (one_le_lead lead) extended (by omega) member past
    · obtain ⟨sooner, rest, rfl, here⟩ :=
        inductionHypothesis (by omega) (by omega) acceptance known gone
      exact ⟨sooner, rest ++ [call], by rw [List.append_assoc, List.cons_append], here⟩
    · exact ⟨calls, [], rfl, here, applied⟩

theorem run_commands_append (host : Host) (calls later : List HostCall) :
    ∃ more, (host.run (calls ++ later)).commands = (host.run calls).commands ++ more := by
  induction later using List.reverseRecOn with
  | nil => exact ⟨[], by rw [List.append_nil, List.append_nil]⟩
  | append_singleton later call inductionHypothesis =>
    obtain ⟨more, same⟩ := inductionHypothesis
    obtain ⟨last, added⟩ := (host.run (calls ++ later)).extend_commands call
    exact ⟨more ++ last, by rw [← List.append_assoc, run_concat, added, same, List.append_assoc]⟩

/-- With a lead of one tick, every command of the next step takes effect after those before it. -/
theorem step_takesEffect {machine : Machine} {made : Nat} (reached : machine.state.Reached made)
    (worldSeed : UInt64) (calls : List HostCall) (few : calls.length < 2 ^ 64)
    (room : machine.state.tick.toNat + HostCall.steps calls + 2 < 2 ^ 64) :
    let run := (Host.mk machine (Relay.new 1) worldSeed).run calls
    made + SequencedCommand.mostEntities run.commands < 2 ^ 32 →
    ∀ earlier command later, run.host.step.1.commands = earlier ++ command :: later → ∀ seed,
      command.action.TakesEffect command.client (run.host.machine.begin earlier seed).state
        (run.host.machine.begin (earlier ++ [command]) seed).state := by
  intro run fewMade earlier command later split seed
  have one : (max (1 : UInt64) 1).toNat = 1 := rfl
  obtain ⟨_, reports, _⟩ := run_delivering machine 1 _ calls few (by omega)
  have delivering : run.Delivering machine.state.tick.toNat 1 :=
    (run_delivering machine 1 _ calls few (by omega)).1
  have foreseen : run.Foreseen := run_foreseen machine _ calls few (by omega)
  have now : run.tick.toNat = machine.state.tick.toNat + HostCall.steps calls :=
    delivering.now.trans (congrArg _ reports)
  have reached : run.host.machine.state.Reached
      (made + (0 + SequencedCommand.mostEntities (run.reports.flatMap TickReport.commands))) := by
    obtain ⟨_, changed⟩ := @run_changed ⟨machine, _, _⟩ _ _ _ _ (.refl machine.state) calls
    exact reached.changed changed
  have due := delivering.mostEntities_due (by omega)
  rw [delivering.due_eq_waiting one (by omega)] at due
  rw [delivering.step_commands one (by omega)] at split
  exact foreseen.takesEffect reached (by omega) split seed

/-- One of some calls is the step to the tick of a command, and the command takes effect there,
after those that come before it in that tick. -/
def TakesEffectIn (host : Host) (calls : List HostCall) (command : SequencedCommand) : Prop :=
  ∃ sooner rest earlier later, calls = sooner ++ .step :: rest ∧
    let before := (host.run sooner).host
    let begun commands := before.machine.begin commands (tickSeed before.seed command.tick)
    before.machine.state.tick + 1 = command.tick ∧
      before.step.1.commands = earlier ++ command :: later ∧
      command.action.TakesEffect command.client (begun earlier).state
        (begun (earlier ++ [command])).state

/-- **With a lead of one tick, every accepted command takes effect**, as long as there are new
identities for avatars. A machine has gone through anything, its relay is new, and from then on
clients submit commands and disconnect while the host steps. Each command that is accepted is
applied in the step to its tick. There a join gives an avatar to a client that has none, a leave
removes the avatar of its client, a move puts that avatar somewhere, and any other command finds its
client with an avatar. -/
theorem run_takesEffect (library : Library) (settings : Settings) (happenings : List Happening)
    (seed : UInt64) (calls : List HostCall)
    (packable : (Chronicle.new library settings).SnapshotsPackable happenings)
    (few : calls.length < 2 ^ 64) :
    let chronicle := Machine.chronicle library settings happenings
    let host := Host.mk chronicle.machine (Relay.new 1) seed
    let run := host.run calls
    chronicle.machine.state.tick.toNat + HostCall.steps calls + 1 < 2 ^ 64 →
    (births chronicle.passed).length + SequencedCommand.mostEntities run.commands < 2 ^ 32 →
    ∀ acceptance ∈ run.accepted, acceptance.command.tick ≤ run.tick →
      host.TakesEffectIn calls acceptance.command := by
  intro chronicle host run room fewMade acceptance member past
  obtain ⟨sooner, rest, rfl, now, applied⟩ :=
    run_applies chronicle.machine 1 seed calls few room acceptance member past
  have steps : HostCall.steps (sooner ++ .step :: rest) =
      HostCall.steps sooner + (HostCall.steps rest + 1) :=
    List.countP_append.trans (congrArg _ List.countP_cons)
  rw [List.length_append, List.length_cons] at few
  rw [steps] at room
  obtain ⟨more, commands⟩ := host.run_commands_append sooner (.step :: rest)
  rw [commands, SequencedCommand.mostEntities_append] at fewMade
  have reached : chronicle.machine.state.Reached (births chronicle.passed).length :=
    (Machine.chronicle_kept happenings packable).route.reached
      (Nat.lt_of_le_of_lt (Nat.le_add_right _ _) fewMade)
  have fewBefore : (births chronicle.passed).length +
      SequencedCommand.mostEntities (host.run sooner).commands < 2 ^ 32 := by omega
  obtain ⟨earlier, later, split⟩ := List.append_of_mem applied
  refine ⟨sooner, rest, earlier, later, rfl, now, split, ?_⟩
  exact step_takesEffect reached seed sooner (by omega) (by omega) fewBefore earlier
    acceptance.command later split _

/-- A client joins, and in the next tick it moves, leaves and joins again. -/
theorem run_takesEffect_rejoin :
    let host := Host.mk (Machine.chronicle default default []).machine (Relay.new 1) 5
    let calls : List HostCall :=
      [.submit ⟨1⟩ ⟨1, 0, .join "ava"⟩, .step, .submit ⟨1⟩ ⟨2, 0, .move ⟨3, 4⟩⟩,
        .submit ⟨1⟩ ⟨3, 0, .leave⟩, .submit ⟨1⟩ ⟨4, 0, .join "ava"⟩, .step]
    (host.run calls).accepted.length = 4 ∧
      ∀ acceptance ∈ (host.run calls).accepted, host.TakesEffectIn calls acceptance.command := by
  intro host calls
  have now : ∀ acceptance ∈ (host.run calls).accepted,
      acceptance.command.tick ≤ (host.run calls).tick := by decide +kernel
  refine ⟨by decide +kernel, fun acceptance member => ?_⟩
  exact run_takesEffect default default [] 5 calls trivial (by decide) (by decide)
    (by decide +kernel) acceptance member (now acceptance member)

/-- When the counter of identities has run over, the avatar of a client that joins takes the place of
the avatar of another one. The leave of that other client is accepted, because it still has an avatar
in the table, but in its tick it unties the wrong client, and its own keeps the avatar that has gone. -/
theorem run_takesEffect_lap :
    let joins : List Operation := [.tick [⟨1, 1, ⟨1⟩, .join "ada"⟩] 7]
    let happenings : List Happening := (joins ++ lap 1).map .operate
    let machine := (Machine.chronicle default default happenings).machine
    let host := Host.mk machine (Relay.new 1) 5
    let calls : List HostCall :=
      [.submit ⟨2⟩ ⟨1, 0, .join "bob"⟩, .step, .submit ⟨1⟩ ⟨2, 0, .leave⟩, .step]
    let leave : SequencedCommand := ⟨2, 3, ⟨1⟩, .leave⟩
    (∃ acceptance ∈ (host.run calls).accepted, acceptance.command = leave) ∧
      leave.tick ≤ (host.run calls).tick ∧
      (host.run calls).host.machine.state.avatarOf? ⟨1⟩ = some ⟨1⟩ ∧
      ¬ host.TakesEffectIn calls leave := by
  intro joins happenings machine host calls leave
  have reached : machine = (Machine.history default default (joins ++ lap 1)).machine :=
    congrArg History.machine (@Machine.chronicle_operate default default (joins ++ lap 1))
  have same := reached.trans (@Machine.history_lap default default joins 1 (by decide +kernel)
    (by decide +kernel)).1
  clear_value machine
  subst same
  refine ⟨by decide +kernel, by decide +kernel, by decide +kernel, ?_⟩
  rintro ⟨sooner, rest, earlier, later, split, now, commands, effect⟩
  -- The leave is for the second step.
  obtain rfl : sooner = [.submit ⟨2⟩ ⟨1, 0, .join "bob"⟩, .step, .submit ⟨1⟩ ⟨2, 0, .leave⟩] := by
    rcases sooner with _ | ⟨first, _ | ⟨second, _ | ⟨third, tail⟩⟩⟩
    · exact nomatch (List.cons.inj split).1
    · obtain ⟨rfl, _⟩ := List.cons.inj split
      exact absurd now (by decide +kernel)
    · exact nomatch (List.cons.inj (List.cons.inj (List.cons.inj split).2).2).1
    · obtain ⟨rfl, afterFirst⟩ := List.cons.inj split
      obtain ⟨rfl, afterSecond⟩ := List.cons.inj afterFirst
      obtain ⟨rfl, afterThird⟩ := List.cons.inj afterSecond
      cases tail with
      | nil => rfl
      | cons last tail =>
        have more : tail ++ .step :: rest ≠ [] :=
          List.append_ne_nil_of_right_ne_nil tail (List.cons_ne_nil _ _)
        exact absurd (List.cons.inj afterThird).2.symm more
  have alone : (host.run [.submit ⟨2⟩ ⟨1, 0, .join "bob"⟩, .step,
      .submit ⟨1⟩ ⟨2, 0, .leave⟩]).host.step.1.commands = [leave] := by decide +kernel
  obtain rfl : earlier = [] := by
    have length := congrArg List.length (alone.symm.trans commands)
    rw [List.length_append, List.length_singleton, List.length_cons] at length
    exact List.eq_nil_of_length_eq_zero (by omega)
  obtain ⟨id, bound, _, departs⟩ := effect
  have left := departs.avatars ⟨1⟩
  rw [if_pos bound] at left
  exact absurd left (by decide +kernel)
end Host
end Lockstep
