import Mathlib.Algebra.Order.BigOperators.Group.List
import Mathlib.Algebra.Order.Ring.Nat
import Lockstep.Proofs.Relay.Standing
import Lockstep.Proofs.Tick.Vacant
import Lockstep.Proofs.World.Instantiate

/-!
# Clients that have gone

When a client disconnects, the relay makes it leave if it counts as joined. After that, and as long
as the client asks for nothing, the last of its joins and leaves in the queue is a leave, or there
is none and it has no avatar (`Host.standing_of_gone`). So no avatar is left when the queue has no
more commands of it (`Host.run_departs`).

This needs the relay to know that the client is about to join, if it is. It does not when that join
was overtaken, and then the client's avatar comes after the client has gone.
-/

set_option autoImplicit false

namespace Lockstep

/-! ## What a run makes -/

namespace SequencedCommand

theorem mostEntities_append (commands later : List SequencedCommand) :
    mostEntities (commands ++ later) = mostEntities commands + mostEntities later := by
  rw [mostEntities, List.map_append, List.sum_append]
  rfl

theorem mostThreads_append (commands later : List SequencedCommand) :
    mostThreads (commands ++ later) = mostThreads commands + mostThreads later := by
  rw [mostThreads, List.map_append, List.sum_append]
  rfl

theorem mostEntities_filter_le (commands : List SequencedCommand) (keep : SequencedCommand → Bool) :
    mostEntities (commands.filter keep) ≤ mostEntities commands :=
  List.Sublist.sum_le_sum ((List.filter_sublist).map _) fun _ _ => Nat.zero_le _

end SequencedCommand

/-- No more entities than this are made when the call takes effect. -/
def HostCall.mostEntities : HostCall → Nat
  | .submit _ request => request.action.mostEntities
  | _ => 0

/-- No more entities than this are made when some calls take effect. -/
def HostCall.mostEntitiesOf (calls : List HostCall) : Nat :=
  (calls.map HostCall.mostEntities).sum

theorem HostCall.mostEntitiesOf_append (calls later : List HostCall) :
    mostEntitiesOf (calls ++ later) = mostEntitiesOf calls + mostEntitiesOf later := by
  rw [mostEntitiesOf, List.map_append, List.sum_append]
  rfl

theorem HostRun.extend_mostEntities (run : HostRun) (call : HostCall) :
    SequencedCommand.mostEntities (run.extend call).commands ≤
      SequencedCommand.mostEntities run.commands + call.mostEntities := by
  have accepted (command : SequencedCommand) (host : Host) :
      SequencedCommand.mostEntities (run.accept command host).commands =
        SequencedCommand.mostEntities run.commands + command.action.mostEntities := by
    rw [commands, accept, List.map_append, SequencedCommand.mostEntities_append]
    rfl
  have extended := run.extends_extend call
  generalize run.extend call = next at extended ⊢
  cases extended with
  | rejects submitted => exact Nat.le_add_right _ _
  | accepts submitted =>
    obtain ⟨rfl, rfl⟩ := Prod.mk.inj (Relay.submit_eq submitted).2
    exact Nat.le_of_eq (accepted _ _)
  | dismisses disconnected =>
    obtain ⟨rfl, rfl⟩ := Prod.mk.inj (Relay.disconnect_eq disconnected)
    exact Nat.le_of_eq (accepted _ _)
  | ignores disconnected => exact Nat.le_refl _
  | steps => exact Nat.le_refl _

theorem Host.run_mostEntities (host : Host) (calls : List HostCall) :
    SequencedCommand.mostEntities (host.run calls).commands ≤ HostCall.mostEntitiesOf calls := by
  refine run_induction (motive := fun calls run =>
    SequencedCommand.mostEntities run.commands ≤ HostCall.mostEntitiesOf calls) (Nat.le_refl 0)
    ?_ calls
  intro calls call run bound
  rw [HostCall.mostEntitiesOf_append]
  exact Nat.le_trans (run.extend_mostEntities call) (Nat.add_le_add_right bound _)

/-- Whatever is called, the state is changed by edits, and the commands of the reports say how much
is made by them. -/
theorem Host.run_changed {host : Host} {first : State} {entities threads : Nat}
    {events : List SoundEvent} (changed : first.Changed entities threads events host.machine.state)
    (calls : List HostCall) :
    let run := host.run calls
    let applied := run.reports.flatMap TickReport.commands
    ∃ events, first.Changed (entities + SequencedCommand.mostEntities applied)
      (threads + SequencedCommand.mostThreads applied) events run.host.machine.state := by
  refine run_induction (motive := fun _ run => ∃ events, first.Changed
    (entities + SequencedCommand.mostEntities (run.reports.flatMap TickReport.commands))
    (threads + SequencedCommand.mostThreads (run.reports.flatMap TickReport.commands))
    events run.host.machine.state) ⟨events, changed⟩ ?_ calls
  intro calls call run before
  have extended := run.extends_extend call
  generalize run.extend call = next at extended ⊢
  cases extended with
  | rejects submitted => exact before
  | accepts submitted => exact before
  | dismisses disconnected => exact before
  | ignores disconnected => exact before
  | steps =>
    obtain ⟨events, changed⟩ := before
    have tick := run.host.machine.runTick_changed
      (run.host.relay.takeForTick (run.tick + 1)).1 (tickSeed run.host.seed (run.tick + 1))
    have applied : (run.extend .step).reports.flatMap TickReport.commands =
        run.reports.flatMap TickReport.commands ++
          SequencedCommand.sort (run.host.relay.takeForTick (run.tick + 1)).1 := by
      rw [HostRun.extend, List.flatMap_append, List.flatMap_singleton]
      rfl
    refine ⟨_, (changed.trans tick).mono (Nat.le_of_eq ?_) (Nat.le_of_eq ?_)⟩
    · rw [applied, SequencedCommand.mostEntities_append, SequencedCommand.mostEntities_sort,
        Nat.add_assoc]
    · rw [applied, SequencedCommand.mostThreads_append, SequencedCommand.mostThreads_sort,
        Nat.add_assoc]

/-! ## Who has joined, from call to call -/

namespace HostRun

variable {run : HostRun} {client : ClientId} {first : Nat} {lead : UInt64}

/-- What was made, and what is made in the next tick, was asked for. -/
theorem Delivering.mostEntities_due (delivering : run.Delivering first lead)
    (room : run.tick.toNat + 1 < 2 ^ 64) :
    SequencedCommand.mostEntities (run.reports.flatMap TickReport.commands) +
        SequencedCommand.mostEntities (run.commands.filter (·.tick = run.tick + 1)) ≤
      SequencedCommand.mostEntities run.commands := by
  rw [delivering.delivered, ← SequencedCommand.mostEntities_append,
    SequencedCommand.filter_up_to_next (toNat_next room) delivering.ordered]
  exact SequencedCommand.mostEntities_filter_le _ _

/-- A command that is accepted is waiting behind the others. -/
theorem Delivering.waiting_accept (ahead : 1 ≤ lead.toNat) {command : SequencedCommand}
    {host : Host} (accepted : (run.accept command host).Delivering first lead)
    (machine : host.machine = run.host.machine) :
    (run.accept command host).waiting = run.waiting ++ [command] := by
  have tick : (run.accept command host).tick = run.tick := congrArg (·.state.tick) machine
  have later : run.tick < command.tick :=
    accepted.later ahead (List.mem_append_right _ (List.mem_singleton_self _))
  rw [HostRun.waiting, tick, commands, HostRun.accept, List.map_append]
  exact filter_concat_pos (decide_eq_true later)

/-- What is waiting is what is due in the next tick and what is waiting after it. -/
theorem Delivering.waiting_step (delivering : run.Delivering first lead)
    (room : run.tick.toNat + 1 < 2 ^ 64) :
    run.waiting = run.commands.filter (·.tick = run.tick + 1) ++ (run.extend .step).waiting :=
  (SequencedCommand.filter_from_next (toNat_next room) delivering.ordered).symm

/-- A join or leave that is accepted counts, and nothing else that is accepted does. -/
theorem Delivering.standing_accept (delivering : run.Delivering first lead)
    (ahead : 1 ≤ lead.toNat) {command : SequencedCommand} {host : Host}
    (accepted : (run.accept command host).Delivering first lead)
    (machine : host.machine = run.host.machine) (client : ClientId) :
    (run.accept command host).standing client =
      (command.standing? client).getD (run.standing client) := by
  have waiting := Delivering.waiting_accept ahead accepted machine
  have state : (run.accept command host).host.machine.state = run.host.machine.state :=
    congrArg Machine.state machine
  rw [accepted.standing_eq, delivering.standing_eq, waiting,
    SequencedCommand.standingOf?_concat, state]
  cases command.standing? client <;> rfl

/-- A client that is not to have joined is not to have joined after a step either. -/
theorem Delivering.standing_step (delivering : run.Delivering first lead)
    (room : run.tick.toNat + 2 < 2 ^ 64) {entities threads : Nat} {events : List SoundEvent}
    (changed : State.empty.Changed entities threads events run.host.machine.state)
    (few : entities + SequencedCommand.mostEntities
      (run.commands.filter (·.tick = run.tick + 1)) < 2 ^ 32)
    (absent : run.standing client = false) : (run.extend .step).standing client = false := by
  have waiting := delivering.waiting_step (Nat.lt_of_succ_lt room)
  rw [delivering.standing_eq, waiting, SequencedCommand.standingOf?_append] at absent
  rw [(delivering.step room).standing_eq]
  cases later : SequencedCommand.standingOf? (run.extend .step).waiting client with
  | some joined =>
    rw [later] at absent
    exact absent
  | none =>
    -- What counted has taken effect in this tick.
    rw [later, Option.none_or] at absent
    have vacant := Machine.runTick_vacant changed (delivering.sort_due _) few absent
      (tickSeed run.host.seed (run.tick + 1))
    have machine : (run.extend .step).host.machine.state = (run.host.machine.runTick
        (run.commands.filter (·.tick = run.tick + 1))
        (tickSeed run.host.seed (run.tick + 1))).machine.state := by
      rw [← (delivering.takes room).1]
      rfl
    rw [machine, vacant]
    rfl

/-- When a client disconnects that counts as joined if it is
to, it is not to have joined any more. -/
theorem Delivering.standing_disconnect (delivering : run.Delivering first lead)
    (ahead : 1 ≤ lead.toNat) (extended : (run.extend (.disconnect client)).Delivering first lead)
    (noticed : run.standing client = true →
      run.host.relay.isJoined client run.host.machine.state = true) :
    (run.extend (.disconnect client)).standing client = false := by
  have call := run.extends_extend (.disconnect client)
  generalize run.extend (.disconnect client) = next at call extended ⊢
  cases call with
  | dismisses disconnected =>
    rw [delivering.standing_accept ahead extended rfl]
    obtain ⟨rfl, rfl⟩ := Prod.mk.inj (Relay.disconnect_eq disconnected)
    rw [SequencedCommand.standing?, if_pos rfl]
    rfl
  | ignores disconnected =>
    obtain ⟨unjoined, rfl⟩ := Relay.disconnect_none disconnected
    exact eq_false_of_ne_true fun joined => unjoined (noticed joined)

/-- A client that is not to have joined and asks for nothing is
not to have joined after any call. -/
theorem Delivering.standing_extend (delivering : run.Delivering first lead)
    (ahead : 1 ≤ lead.toNat) {call : HostCall}
    (extended : (run.extend call).Delivering first lead)
    (room : run.tick.toNat + HostCall.steps [call] + lead.toNat < 2 ^ 64)
    {entities threads : Nat} {events : List SoundEvent}
    (changed : State.empty.Changed entities threads events run.host.machine.state)
    (few : entities + SequencedCommand.mostEntities
      (run.commands.filter (·.tick = run.tick + 1)) < 2 ^ 32)
    (silent : ∀ request, call ≠ .submit client request)
    (absent : run.standing client = false) : (run.extend call).standing client = false := by
  have made := run.extends_extend call
  generalize same : run.extend call = next at made extended ⊢
  cases made with
  | rejects submitted => exact absent
  | @accepts other request command relay submitted =>
    rw [delivering.standing_accept ahead extended rfl]
    obtain ⟨rfl, rfl⟩ := Prod.mk.inj (Relay.submit_eq submitted).2
    rw [SequencedCommand.standing?, if_neg]
    · exact absent
    · exact fun here => silent request (congrArg (HostCall.submit · request) here)
  | @dismisses other command relay disconnected =>
    rw [delivering.standing_accept ahead extended rfl]
    obtain ⟨rfl, rfl⟩ := Prod.mk.inj (Relay.disconnect_eq disconnected)
    rw [SequencedCommand.standing?]
    split
    · rfl
    · exact absent
  | ignores disconnected =>
    obtain ⟨_, rfl⟩ := Relay.disconnect_none disconnected
    exact absent
  | steps =>
    have one : HostCall.steps [.step] = 1 := rfl
    exact delivering.standing_step (by omega) changed few absent

end HostRun

/-! ## Runs -/

namespace Host

/-- After a client has disconnected, and as long as it asks for
nothing, it is not to have joined. -/
theorem standing_of_gone {machine : Machine} {entities threads : Nat} {events : List SoundEvent}
    (changed : State.empty.Changed entities threads events machine.state) (lead seed : UInt64)
    (before after : List HostCall) (client : ClientId)
    (few : (before ++ .disconnect client :: after).length < 2 ^ 64)
    (room : machine.state.tick.toNat + HostCall.steps (before ++ .disconnect client :: after) +
      (max lead 1).toNat < 2 ^ 64)
    (fewMade : entities + HostCall.mostEntitiesOf (before ++ .disconnect client :: after) < 2 ^ 32)
    (silent : ∀ request, .submit client request ∉ after)
    (noticed : let run := (Host.mk machine (Relay.new lead) seed).run before
      run.standing client = true →
        run.host.relay.isJoined client run.host.machine.state = true) :
    ((Host.mk machine (Relay.new lead) seed).run
      (before ++ .disconnect client :: after)).standing client = false := by
  have ahead := one_le_lead lead
  induction after using List.reverseRecOn with
  | nil =>
    have steps : HostCall.steps (before ++ [.disconnect client]) = HostCall.steps before :=
      List.countP_append
    obtain ⟨extended, _, _⟩ := run_delivering machine lead seed _ few room
    rw [List.length_append, List.length_singleton] at few
    rw [steps] at room
    obtain ⟨delivering, _, _⟩ := run_delivering machine lead seed before (by omega) room
    rw [run_concat] at extended ⊢
    exact delivering.standing_disconnect ahead extended noticed
  | append_singleton after call inductionHypothesis =>
    have concat : before ++ .disconnect client :: (after ++ [call]) =
        (before ++ .disconnect client :: after) ++ [call] := by
      rw [List.append_assoc, List.cons_append]
    rw [concat] at few room fewMade ⊢
    generalize sooner : before ++ .disconnect client :: after = calls at *
    have steps : HostCall.steps (calls ++ [call]) = HostCall.steps calls + HostCall.steps [call] :=
      List.countP_append
    obtain ⟨extended, _, _⟩ := run_delivering machine lead seed _ few room
    rw [List.length_append, List.length_singleton] at few
    rw [steps] at room
    rw [HostCall.mostEntitiesOf_append] at fewMade
    obtain ⟨delivering, reports, _⟩ := run_delivering machine lead seed calls (by omega) (by omega)
    have now := delivering.now
    obtain ⟨_, reached⟩ := @run_changed ⟨machine, Relay.new lead, seed⟩ _ _ _ _ changed calls
    have made := delivering.mostEntities_due (by omega)
    have asked := run_mostEntities (Host.mk machine (Relay.new lead) seed) calls
    rw [run_concat] at extended ⊢
    refine delivering.standing_extend ahead extended (by omega) reached (by omega) ?_ ?_
    · rintro request rfl
      exact silent request (List.mem_append_right _ (List.mem_singleton_self _))
    · refine inductionHypothesis (by omega) (by omega) (by omega) fun request member => ?_
      exact silent request (List.mem_append_left _ member)

/-- **A client that has gone leaves no avatar behind** once no command of it is in the queue, if it
asks for nothing after it has disconnected, and if the relay knew then that it was about to join, if
it was. With a lead of one tick the relay always knows. -/
theorem run_departs (world : World) (lead seed : UInt64) (before after : List HostCall)
    (client : ClientId) (few : (before ++ .disconnect client :: after).length < 2 ^ 64)
    (room : HostCall.steps (before ++ .disconnect client :: after) + (max lead 1).toNat < 2 ^ 64)
    (fewMade : world.manifest.entities.length +
      HostCall.mostEntitiesOf (before ++ .disconnect client :: after) < 2 ^ 32)
    (silent : ∀ request, .submit client request ∉ after)
    (noticed : let run := (Host.mk world.instantiate (Relay.new lead) seed).run before
      lead ≤ 1 ∨ (run.standing client = true →
        run.host.relay.isJoined client run.host.machine.state = true)) :
    let run := (Host.mk world.instantiate (Relay.new lead) seed).run
      (before ++ .disconnect client :: after)
    (∀ command ∈ run.host.relay.pending.values.flatten, command.client ≠ client) →
      run.host.machine.state.avatarOf? client = none := by
  intro run others
  have begins : world.instantiate.state.tick.toNat = 0 := congrArg UInt64.toNat world.instantiate_tick
  have counted : world.instantiate.state.tick.toNat +
      HostCall.steps (before ++ .disconnect client :: after) + (max lead 1).toNat < 2 ^ 64 := by
    rw [begins, Nat.zero_add]
    exact room
  have absent := standing_of_gone world.instantiate_changed lead seed before after client few
    counted fewMade silent ?_
  · obtain ⟨delivering, _, _⟩ := run_delivering world.instantiate lead seed _ few counted
    have waiting : run.waiting = run.host.relay.pending.values.flatten :=
      (flatten_batches (delivering.ordered.filter _) delivering.batches).symm
    rw [delivering.standing_eq, waiting, SequencedCommand.standingOf?_of_others others] at absent
    exact Option.isNone_iff_eq_none.mp (Option.isSome_eq_false_iff.mp absent)
  · rcases noticed with short | noticed
    · intro run joined
      rw [List.length_append] at few
      rw [HostCall.steps, List.countP_append] at counted
      have fewBefore : before.length < 2 ^ 64 := Nat.lt_of_le_of_lt (Nat.le_add_right _ _) few
      have roomBefore : world.instantiate.state.tick.toNat + HostCall.steps before +
          (max lead 1).toNat < 2 ^ 64 := by
        rw [HostCall.steps]
        omega
      obtain ⟨delivering, _, _⟩ := run_delivering world.instantiate lead seed before fewBefore
        roomBefore
      have marked := run_marked world.instantiate lead seed before client fewBefore roomBefore
      have one : max lead 1 = 1 := if_pos short
      rw [marked.isJoined_eq delivering (one_le_lead lead),
        delivering.not_overtaken (congrArg UInt64.toNat one)]
      exact joined
    · exact noticed

/-- A client disconnects while its join is in the queue. It gets an avatar in the third tick and
leaves in the fourth. -/
theorem run_departs_early :
    let before : List HostCall := [.submit ⟨1⟩ ⟨1, 0, .join "ava"⟩, .step]
    let after : List HostCall := [.step, .step, .step]
    let world : World := default
    let joined := ((Host.mk world.instantiate (Relay.new 3) 0).run
      (before ++ .disconnect ⟨1⟩ :: [.step, .step])).host
    let run := (Host.mk world.instantiate (Relay.new 3) 0).run (before ++ .disconnect ⟨1⟩ :: after)
    joined.machine.state.avatarOf? ⟨1⟩ = some ⟨1⟩ ∧
      run.host.relay.pending.values.flatten = [] ∧
      run.host.machine.state.avatarOf? ⟨1⟩ = none := by
  intro before after world joined run
  have joining : ((Host.mk world.instantiate (Relay.new 3) 0).run before).host.relay.isJoined ⟨1⟩
      ((Host.mk world.instantiate (Relay.new 3) 0).run before).host.machine.state = true := by
    decide +kernel
  have empty : run.host.relay.pending.values.flatten = [] := by decide +kernel
  refine ⟨by decide +kernel, empty, ?_⟩
  refine run_departs world 3 0 before after ⟨1⟩ (by decide) (by decide) (by decide) ?_
    (.inr fun _ => joining) ?_
  · intro request member
    simp [after] at member
  · intro command member
    rw [show _ = _ from empty] at member
    exact absurd member List.not_mem_nil

/-- A client joins, leaves and joins again in three ticks, before the first of these takes effect,
and disconnects when its leave has taken effect. Its last join is overlooked, and leaves an avatar
behind. -/
theorem run_departs_overtaken :
    let before : List HostCall :=
      [.submit ⟨1⟩ ⟨1, 0, .join "ava"⟩, .step, .submit ⟨1⟩ ⟨2, 0, .leave⟩, .step,
        .submit ⟨1⟩ ⟨3, 0, .join "ava"⟩, .step, .step]
    let world : World := default
    let run := (Host.mk world.instantiate (Relay.new 3) 0).run
      (before ++ .disconnect ⟨1⟩ :: [.step])
    run.host.relay.pending.values.flatten = [] ∧
      run.host.machine.state.avatarOf? ⟨1⟩ = some ⟨2⟩ := by
  decide +kernel

end Host
end Lockstep
