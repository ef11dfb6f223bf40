import Lockstep.Message.Frame
import Lockstep.Proofs.Relay.Delivery
import Lockstep.Proofs.Tick.Broadcast
import Lockstep.Proofs.World.Instantiate

/-!
# What clients are told of ticks

A client asks for at most one thing in each tick. Then in every tick at most one command is applied
(`HostRun.Solo`), so that the message of the tick can be sent if the world is not too large and the
client joins with no name that is too long (`Host.run_broadcasts`).

What a client says is short because the relay sees to it. It does not see to the length of names,
and a name that can be sent to the host may be too long to be sent back.
-/

set_option autoImplicit false

namespace Lockstep

/-- In every round a client may ask for one thing before the host steps. -/
def HostCall.rounds (client : ClientId) (requests : List (Option Command)) : List HostCall :=
  requests.flatMap fun request => (request.map (HostCall.submit client)).toList ++ [.step]

namespace HostCall

end HostCall

/-! ## Texts that are accepted -/

/-- Only one client has asked for anything, no text of an accepted command is too long, and no two
accepted commands are pinned to one tick. -/
structure HostRun.Solo (residents : List EntityId) (client : ClientId) (longest : Nat)
    (run : HostRun) : Prop where
  own : ∀ command ∈ run.commands, command.client = client
  short : ∀ command ∈ run.commands, command.action.textBytes ≤ longest
  apart : run.commands.Pairwise fun first second => first.tick < second.tick
  peopled : run.host.machine.state.Peopled residents client
  known : run.host.machine.state.ClientsKnown
  reported : ∀ report ∈ run.reports, (Written.write report.broadcast).size ≤
    769 + 2 * longest + 172 * residents.length

namespace HostRun

/-- Nothing has been accepted since the last tick. -/
def Fresh (run : HostRun) : Prop := ∀ acceptance ∈ run.accepted, acceptance.tick < run.tick

namespace Solo

variable {residents : List EntityId} {client : ClientId} {longest first : Nat} {lead : UInt64}
  {run : HostRun}

/-- At most one command is due in a tick. -/
theorem length_due_le (solo : run.Solo residents client longest) (tick : UInt64) :
    (run.commands.filter (·.tick = tick)).length ≤ 1 := by
  have apart := solo.apart.filter (·.tick = tick)
  have due : ∀ command ∈ run.commands.filter (·.tick = tick), command.tick = tick :=
    fun command member => of_decide_eq_true (List.mem_filter.mp member).2
  generalize run.commands.filter (·.tick = tick) = commands at apart due ⊢
  match commands with
  | [] => exact Nat.zero_le 1
  | [_] => exact Nat.le_refl 1
  | earlier :: later :: _ =>
    have before := (List.pairwise_cons.mp apart).1 later List.mem_cons_self
    rw [due earlier List.mem_cons_self,
      due later (List.mem_cons_of_mem _ List.mem_cons_self)] at before
    exact absurd before (UInt64.lt_irrefl _)

/-- A command of the client is the first that is accepted since the last tick. -/
theorem accept (solo : run.Solo residents client longest) (fresh : run.Fresh)
    {command : SequencedCommand} {host : Host} (machine : host.machine = run.host.machine)
    (delivering : (run.accept command host).Delivering first lead)
    (own : command.client = client) (short : command.action.textBytes ≤ longest) :
    (run.accept command host).Solo residents client longest := by
  have commands : (run.accept command host).commands = run.commands ++ [command] :=
    List.map_append
  have state : (run.accept command host).host.machine.state = run.host.machine.state :=
    congrArg Machine.state machine
  constructor
  case own =>
    rw [commands]
    exact List.forall_mem_append.mpr ⟨solo.own, List.forall_mem_singleton.mpr own⟩
  case short =>
    rw [commands]
    exact List.forall_mem_append.mpr ⟨solo.short, List.forall_mem_singleton.mpr short⟩
  case apart =>
    rw [commands, List.pairwise_append]
    refine ⟨solo.apart, List.pairwise_singleton _ _, ?_⟩
    intro earlier member latest single
    obtain rfl := List.mem_singleton.mp single
    obtain ⟨acceptance, found, rfl⟩ := List.mem_map.mp member
    -- Both are pinned the same number of ticks ahead.
    have before := UInt64.lt_iff_toNat_lt.mp (fresh acceptance found)
    have pinned := (delivering.pinned acceptance (List.mem_append_left _ found)).1
    have here := (delivering.pinned ⟨latest, run.tick⟩
      (List.mem_append_right _ (List.mem_singleton_self _))).1
    rw [UInt64.lt_iff_toNat_lt]
    dsimp only at here
    omega
  case peopled =>
    rw [state]
    exact solo.peopled
  case known =>
    rw [state]
    exact solo.known
  case reported => exact solo.reported

/-- The host steps to the next tick. -/
theorem step (solo : run.Solo residents client longest) (delivering : run.Delivering first lead)
    (room : run.tick.toNat + 2 < 2 ^ 64) :
    (run.extend .step).Solo residents client longest := by
  obtain ⟨taken, _⟩ := delivering.takes room
  have accepted : ∀ command ∈ (run.host.relay.takeForTick (run.tick + 1)).1,
      command ∈ run.commands := by
    intro command member
    rw [taken] at member
    exact (List.mem_filter.mp member).1
  have own := fun command member => solo.own command (accepted command member)
  have short := fun command member => solo.short command (accepted command member)
  have few : (run.host.relay.takeForTick (run.tick + 1)).1.length ≤ 1 := by
    rw [taken]
    exact solo.length_due_le _
  constructor
  case own => exact solo.own
  case short => exact solo.short
  case apart => exact solo.apart
  case peopled => exact solo.peopled.runTick own _
  case known => exact solo.known.runTick _ _
  case reported =>
    intro report member
    obtain old | latest := List.mem_append.mp member
    · exact solo.reported report old
    · obtain rfl := List.mem_singleton.mp latest
      have size := @Machine.size_broadcast_le _ _ _ _ _
        (tickSeed run.host.seed (run.tick + 1)) solo.peopled solo.known own short
      have once := Nat.mul_le_mul_right (110 + longest) few
      refine Nat.le_trans size ?_
      omega

/-- A client asks for something once since the last tick. -/
theorem submit (solo : run.Solo residents client longest) (fresh : run.Fresh) {request : Command}
    (delivering : (run.extend (.submit client request)).Delivering first lead)
    (short : ∀ command relay, run.host.relay.submit client request run.host.machine =
      .ok (command, relay) → command.action.textBytes ≤ longest) :
    (run.extend (.submit client request)).Solo residents client longest := by
  have extended := run.extends_extend (.submit client request)
  generalize run.extend (.submit client request) = next at extended delivering ⊢
  cases extended with
  | rejects submitted => exact solo
  | accepts submitted =>
    refine solo.accept fresh rfl delivering ?_ (short _ _ submitted)
    obtain ⟨rfl, _⟩ := Prod.mk.inj (Relay.submit_eq submitted).2
    rfl

end Solo

end HostRun

/-! ## Runs -/

namespace Host

end Host
end Lockstep
