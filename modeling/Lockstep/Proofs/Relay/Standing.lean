import Lockstep.Proofs.Command.Standing
import Lockstep.Proofs.Relay.Delivery

/-!
# Who has joined

A client counts as joined if the most recent of its joins and leaves that are waiting is a join or,
when none is waiting, if it has an avatar (`HostRun.standing`). The relay keeps no more than one
mark for each client, which stands for the most recent join or leave and goes as soon as a join, or
a leave, of that client is taken. With a lead of more than one tick that can be an earlier one, so
that the mark is gone while the join or leave that it stood for is still waiting
(`HostRun.overtaken`). The relay then goes by the avatar alone, and in all other cases it is right
(`Host.run_isJoined`).

The invariant is `HostRun.Marked`: it says of each mark in terms of the accepted commands when it is
there.
-/

set_option autoImplicit false

namespace Lockstep

/-! ## Marks -/

namespace Relay

/-- The clients that are about to join, or those that are about to leave. -/
def marks (relay : Relay) (joined : Bool) : KeySet ClientId :=
  if joined then relay.joining else relay.leaving

theorem isJoined_eq (relay : Relay) (client : ClientId) (state : State) :
    relay.isJoined client state = (!(relay.marks false).contains client &&
      ((relay.marks true).contains client || (state.avatarOf? client).isSome)) := rfl

theorem contains_insert (clients : KeySet ClientId) (client probe : ClientId) :
    (clients.insert client ()).contains probe = (decide (client = probe) || clients.contains probe) := by
  rw [Bool.eq_iff_iff, Table.contains_insert_iff, Bool.or_eq_true, decide_eq_true_eq, eq_comm]

theorem contains_erase (clients : KeySet ClientId) (client probe : ClientId) :
    (clients.erase client).contains probe = (!decide (client = probe) && clients.contains probe) := by
  rw [Bool.eq_iff_iff, Table.contains_erase_iff, Bool.and_eq_true, Bool.not_eq_true',
    decide_eq_false_iff_not, ne_comm]

/-- The mark of a client is the one of its most recent join or leave. -/
theorem contains_marks_schedule (relay : Relay) (client probe : ClientId) (action : CommandAction)
    (machine : Machine) (joined : Bool) :
    ((relay.schedule client action machine).2.marks joined).contains probe =
      (((relay.schedule client action machine).1.standing? probe).map (· == joined)).getD
        ((relay.marks joined).contains probe) := by
  by_cases same : client = probe
  · cases action <;> cases joined <;> simp [schedule, mark, marks, contains_insert, contains_erase,
      SequencedCommand.standing?, CommandAction.standing?, same]
  · cases action <;> cases joined <;> simp [schedule, mark, marks, contains_insert, contains_erase,
      SequencedCommand.standing?, same]

theorem contains_marks_unmark (relay : Relay) (command : SequencedCommand) (probe : ClientId)
    (joined : Bool) :
    ((relay.unmark command).marks joined).contains probe =
      (decide (command.standing? probe ≠ some joined) && (relay.marks joined).contains probe) := by
  obtain ⟨seq, tick, client, action⟩ := command
  by_cases same : client = probe
  · cases action <;> cases joined <;> simp [unmark, marks, contains_erase,
      SequencedCommand.standing?, CommandAction.standing?, same]
  · cases action <;> cases joined <;> simp [unmark, marks, contains_erase,
      SequencedCommand.standing?, same]

/-- When commands are taken, a mark goes with the first one of its kind. -/
theorem contains_marks_unmarks (relay : Relay) (commands : List SequencedCommand)
    (probe : ClientId) (joined : Bool) :
    ((commands.foldl unmark relay).marks joined).contains probe = true ↔
      (relay.marks joined).contains probe = true ∧
        ∀ command ∈ commands, command.standing? probe ≠ some joined := by
  induction commands generalizing relay with
  | nil => simp
  | cons command rest inductionHypothesis =>
    rw [List.foldl_cons, inductionHypothesis, contains_marks_unmark, Bool.and_eq_true,
      decide_eq_true_eq, List.forall_mem_cons]
    exact ⟨fun ⟨⟨apart, marked⟩, others⟩ => ⟨marked, apart, others⟩,
      fun ⟨marked, apart, others⟩ => ⟨⟨apart, marked⟩, others⟩⟩

end Relay

/-! ## Joins and leaves of a run -/

namespace HostRun

/-- The joins and leaves of a client, first one first. -/
def settlements (run : HostRun) (client : ClientId) : List Acceptance :=
  run.accepted.filter fun acceptance => (acceptance.command.standing? client).isSome

/-- Whether a command that was accepted is still in the queue. -/
def isPending (run : HostRun) (acceptance : Acceptance) : Bool :=
  acceptance.command ∈ run.host.relay.pending.values.flatten

/-- The most recent join or leave of a client, of those that are still in the queue. -/
def latest? (run : HostRun) (client : ClientId) : Option Acceptance :=
  ((run.settlements client).filter run.isPending).getLast?

/-- Whether a client has joined, or is about to, and is not about to leave. -/
def standing (run : HostRun) (client : ClientId) : Bool :=
  ((run.latest? client).bind fun last => last.command.standing? client).getD
    (run.host.machine.state.avatarOf? client).isSome

/-- Whether an earlier join or leave of a client took effect after the most recent one was accepted,
while that one, of the same kind, is still in the queue. -/
def overtaken (run : HostRun) (client : ClientId) : Bool :=
  match run.latest? client with
  | none => false
  | some last => (run.settlements client).any fun earlier =>
      decide (earlier.command.standing? client = last.command.standing? client) &&
        decide (last.tick < earlier.command.tick) && decide (earlier.command.tick ≤ run.tick)

/-- A client is marked from its most recent join or leave until one of that kind takes effect. -/
def Marked (run : HostRun) (client : ClientId) : Prop :=
  ∀ joined, (run.host.relay.marks joined).contains client = true ↔
    ∃ last, (run.settlements client).getLast? = some last ∧
      last.command.standing? client = some joined ∧
      ∀ earlier ∈ run.accepted, earlier.command.standing? client = some joined →
        last.tick < earlier.command.tick → run.tick < earlier.command.tick

theorem settlements_accept_none {run : HostRun} {client : ClientId} {command : SequencedCommand}
    {host : Host} (other : command.standing? client = none) :
    (run.accept command host).settlements client = run.settlements client :=
  filter_concat_neg (by simp [other])

theorem settlements_accept_some {run : HostRun} {client : ClientId} {command : SequencedCommand}
    {host : Host} {joined : Bool} (settles : command.standing? client = some joined) :
    (run.accept command host).settlements client =
      run.settlements client ++ [⟨command, run.tick⟩] :=
  filter_concat_pos (settles ▸ rfl)

namespace Marked

variable {run : HostRun} {client : ClientId}

/-- A client has at most one mark. -/
theorem exclusive (marked : run.Marked client)
    (joining : (run.host.relay.marks true).contains client = true) :
    ¬ (run.host.relay.marks false).contains client = true := by
  intro leaving
  obtain ⟨last, isLast, joins, _⟩ := (marked true).mp joining
  obtain ⟨same, isSame, leaves, _⟩ := (marked false).mp leaving
  obtain rfl := Option.some.inj (isLast.symm.trans isSame)
  exact absurd (joins.symm.trans leaves) (by simp)

/-- A client that is about to join has joined. -/
theorem isJoined_of_joining (marked : run.Marked client)
    (joining : (run.host.relay.marks true).contains client = true) (state : State) :
    run.host.relay.isJoined client state = true := by
  rw [Relay.isJoined_eq, joining, eq_false_of_ne_true (marked.exclusive joining)]
  rfl

/-- The machine and the marks are as they were. -/
theorem idle (marked : run.Marked client) {host : Host}
    (machine : host.machine = run.host.machine)
    (marks : ∀ joined, (host.relay.marks joined).contains client =
      (run.host.relay.marks joined).contains client) :
    Marked { run with host } client := by
  have tick : ({ run with host } : HostRun).tick = run.tick := congrArg (·.state.tick) machine
  intro joined
  rw [tick]
  exact (marks joined) ▸ marked joined

/-- A command is accepted. -/
theorem accept (marked : run.Marked client) {command : SequencedCommand} {host : Host}
    (machine : host.machine = run.host.machine)
    (marks : ∀ joined, (host.relay.marks joined).contains client =
      ((command.standing? client).map (· == joined)).getD
        ((run.host.relay.marks joined).contains client)) :
    (run.accept command host).Marked client := by
  have tick : (run.accept command host).tick = run.tick := congrArg (·.state.tick) machine
  intro joined
  rw [tick]
  refine (iff_of_eq (congrArg (· = true) (marks joined))).trans ?_
  cases settles : command.standing? client with
  | none =>
    rw [settlements_accept_none settles]
    refine (marked joined).trans (exists_congr fun last => ?_)
    refine and_congr_right fun _ => and_congr_right fun _ => ?_
    rw [HostRun.accept, List.forall_mem_append, List.forall_mem_singleton, settles]
    exact ⟨fun earlier => ⟨earlier, fun same => absurd same (Option.some_ne_none joined).symm⟩,
      fun both => both.1⟩
  | some standing =>
    rw [settlements_accept_some settles, List.getLast?_concat, Option.map_some, Option.getD_some,
      beq_iff_eq]
    constructor
    · rintro rfl
      refine ⟨_, rfl, settles, fun earlier _ _ later => later⟩
    · rintro ⟨last, same, joins, _⟩
      obtain rfl := Option.some.inj same
      exact Option.some.inj (settles.symm.trans joins)

/-- The host steps to the next tick. -/
theorem step (marked : run.Marked client) {first : Nat} {lead : UInt64}
    (delivering : run.Delivering first lead) (room : run.tick.toNat + 2 < 2 ^ 64) :
    (run.extend .step).Marked client := by
  have next : (run.tick + 1).toNat = run.tick.toNat + 1 := toNat_next (Nat.lt_of_succ_lt room)
  have tick : (run.extend .step).tick = run.tick + 1 := rfl
  have accepted : (run.extend .step).accepted = run.accepted := rfl
  have marks : ∀ joined, (run.extend .step).host.relay.marks joined =
      ((run.commands.filter (·.tick = run.tick + 1)).foldl Relay.unmark run.host.relay).marks
        joined := fun _ => delivering.taken room ▸ rfl
  intro joined
  rw [marks, Relay.contains_marks_unmarks, marked joined, tick, accepted]
  constructor
  · rintro ⟨⟨last, isLast, joins, untaken⟩, others⟩
    refine ⟨last, isLast, joins, fun earlier member same later => ?_⟩
    have after := UInt64.lt_iff_toNat_lt.mp (untaken earlier member same later)
    have apart : earlier.command.tick ≠ run.tick + 1 := fun due =>
      others earlier.command (List.mem_filter.mpr
        ⟨List.mem_map_of_mem member, decide_eq_true due⟩) same
    rw [Ne, ← UInt64.toNat_inj] at apart
    exact UInt64.lt_iff_toNat_lt.mpr (by omega)
  · rintro ⟨last, isLast, joins, untaken⟩
    refine ⟨⟨last, isLast, joins, fun earlier member same later => ?_⟩, ?_⟩
    · have after := UInt64.lt_iff_toNat_lt.mp (untaken earlier member same later)
      exact UInt64.lt_iff_toNat_lt.mpr (by omega)
    · -- What is taken now is later than the acceptance of the last join or leave.
      intro command member same
      obtain ⟨member, due⟩ := List.mem_filter.mp member
      obtain ⟨earlier, accepted, rfl⟩ := List.mem_map.mp member
      have here := of_decide_eq_true due
      have known := List.mem_of_mem_filter (List.mem_of_getLast? isLast)
      have past := (delivering.pinned last known).2
      have after := UInt64.lt_iff_toNat_lt.mp (untaken earlier accepted same
        (UInt64.lt_iff_toNat_lt.mpr (by rw [here]; omega)))
      rw [here] at after
      exact absurd after (Nat.lt_irrefl _)

/-- Whatever is called, marks are as they should be. -/
theorem extend (marked : run.Marked client) {first : Nat} {lead : UInt64}
    (delivering : run.Delivering first lead) (call : HostCall)
    (room : run.tick.toNat + HostCall.steps [call] + 1 < 2 ^ 64) :
    (run.extend call).Marked client := by
  have extended := run.extends_extend call
  generalize run.extend call = next at extended ⊢
  cases extended with
  | rejects submitted => exact marked
  | accepts submitted =>
    refine marked.accept rfl fun joined => ?_
    obtain ⟨rfl, rfl⟩ := Prod.mk.inj (Relay.submit_eq submitted).2
    exact Relay.contains_marks_schedule ..
  | dismisses disconnected =>
    refine marked.accept rfl fun joined => ?_
    obtain ⟨rfl, rfl⟩ := Prod.mk.inj (Relay.disconnect_eq disconnected)
    exact Relay.contains_marks_schedule ..
  | @ignores other relay disconnected =>
    obtain ⟨absent, rfl⟩ := Relay.disconnect_none disconnected
    refine marked.idle rfl fun joined => ?_
    cases joined with
    | false => rfl
    | true =>
      -- A client that has not joined was not about to join either.
      refine (Relay.contains_erase _ other client).trans ?_
      by_cases same : other = client
      · have unmarked : ¬ (run.host.relay.marks true).contains client = true := fun joining =>
          absent (same ▸ marked.isJoined_of_joining joining _)
        rw [decide_eq_true same, eq_false_of_ne_true unmarked]
        rfl
      · rw [decide_eq_false same]
        rfl
  | steps =>
    refine marked.step delivering ?_
    have one : HostCall.steps [.step] = 1 := rfl
    omega

end Marked

/-! ## What marks stand for -/

/-- What passes stays behind what does not, so that the last one that passes is the last of all. -/
theorem getLast?_filter {α : Type} {keep : α → Bool} {list : List α}
    (upward : list.Pairwise fun earlier later => keep earlier = true → keep later = true) :
    (list.filter keep).getLast? = list.getLast?.filter keep := by
  induction list using List.reverseRecOn with
  | nil => rfl
  | append_singleton list last inductionHypothesis =>
    rw [List.getLast?_concat, Option.filter_some]
    by_cases kept : keep last = true
    · rw [if_pos kept, filter_concat_pos kept, List.getLast?_concat]
    · rw [if_neg kept, filter_concat_neg kept, List.filter_eq_nil_iff.mpr, List.getLast?_nil]
      intro earlier member passes
      exact kept ((List.pairwise_append.mp upward).2.2 earlier member last
        (List.mem_singleton_self last) passes)

variable {run : HostRun} {client : ClientId} {first : Nat} {lead : UInt64}

/-- A command is in the queue until its tick comes. -/
theorem Delivering.isPending_eq (delivering : run.Delivering first lead) {acceptance : Acceptance}
    (member : acceptance ∈ run.accepted) :
    run.isPending acceptance = decide (run.tick < acceptance.command.tick) := by
  have queue : run.host.relay.pending.values.flatten = run.waiting :=
    flatten_batches (delivering.ordered.filter _) delivering.batches
  have known : acceptance.command ∈ run.commands := List.mem_map_of_mem member
  rw [isPending, queue, decide_eq_decide, waiting, List.mem_filter, decide_eq_true_eq]
  exact and_iff_right known

/-- The most recent join or leave is the one that is in the queue longest. -/
theorem Delivering.latest?_eq (delivering : run.Delivering first lead) (client : ClientId) :
    run.latest? client =
      (run.settlements client).getLast?.filter fun last => run.tick < last.command.tick := by
  have ordered : run.accepted.Pairwise fun first second =>
      first.command.tick ≤ second.command.tick :=
    (@List.pairwise_map _ _ Acceptance.command _ _).mp delivering.ordered
  have pending : (run.settlements client).filter run.isPending =
      (run.settlements client).filter fun last => run.tick < last.command.tick :=
    List.filter_congr fun _ member => delivering.isPending_eq (List.mem_of_mem_filter member)
  rw [latest?, pending, getLast?_filter]
  refine (ordered.filter _).imp fun before later => ?_
  exact decide_eq_true (UInt64.lt_of_lt_of_le (of_decide_eq_true later) before)

/-- What the commands that are waiting settle counts, and the avatar if they settle nothing. -/
theorem Delivering.standing_eq (delivering : run.Delivering first lead) (client : ClientId) :
    run.standing client = (SequencedCommand.standingOf? run.waiting client).getD
      (run.host.machine.state.avatarOf? client).isSome := by
  have pending : (run.settlements client).filter run.isPending =
      (run.accepted.filter fun last => run.tick < last.command.tick).filter
        fun last => (last.command.standing? client).isSome := by
    rw [settlements, List.filter_comm]
    exact congrArg _ (List.filter_congr fun _ member => delivering.isPending_eq member)
  have waiting : run.waiting =
      (run.accepted.filter fun last => run.tick < last.command.tick).map Acceptance.command :=
    List.filter_map
  rw [standing, latest?, pending, SequencedCommand.standingOf?, waiting, List.filterMap_map,
    getLast?_filterMap]
  rfl

/-- Every join or leave is later than its acceptance. -/
theorem Delivering.later (delivering : run.Delivering first lead) (ahead : 1 ≤ lead.toNat)
    {acceptance : Acceptance} (member : acceptance ∈ run.accepted) :
    acceptance.tick < acceptance.command.tick := by
  rw [UInt64.lt_iff_toNat_lt, (delivering.pinned acceptance member).1]
  omega

/-- The mark is that of the most recent join or leave in the queue, unless it was overtaken. -/
theorem Marked.contains_marks (marked : run.Marked client) (delivering : run.Delivering first lead)
    (ahead : 1 ≤ lead.toNat) (joined : Bool) :
    (run.host.relay.marks joined).contains client =
      (decide ((run.latest? client).bind (fun last => last.command.standing? client) =
        some joined) && !run.overtaken client) := by
  rw [Bool.eq_iff_iff, marked joined, Bool.and_eq_true, decide_eq_true_eq, Option.bind_eq_some_iff,
    Bool.not_eq_true', overtaken, delivering.latest?_eq]
  constructor
  · rintro ⟨last, isLast, joins, untaken⟩
    have known := List.mem_of_mem_filter (List.mem_of_getLast? isLast)
    -- Its own tick is one of those at which the mark would have gone.
    have waits := untaken last known joins (delivering.later ahead known)
    rw [isLast, Option.filter_some, if_pos (decide_eq_true waits)]
    refine ⟨⟨last, rfl, joins⟩, List.any_eq_false.mpr fun earlier member taken => ?_⟩
    rw [Bool.and_eq_true, Bool.and_eq_true, decide_eq_true_eq, decide_eq_true_eq,
      decide_eq_true_eq] at taken
    obtain ⟨⟨same, later⟩, past⟩ := taken
    have after := untaken earlier (List.mem_of_mem_filter member) (same.trans joins) later
    exact absurd (UInt64.lt_of_lt_of_le after past) (UInt64.lt_irrefl _)
  · rintro ⟨⟨last, found, joins⟩, none⟩
    rw [found] at none
    obtain ⟨isLast, _⟩ := Option.filter_eq_some_iff.mp found
    refine ⟨last, isLast, joins, fun earlier member same later => ?_⟩
    have settles : earlier ∈ run.settlements client :=
      List.mem_filter.mpr ⟨member, by rw [same]; rfl⟩
    refine UInt64.not_le.mp fun past => List.any_eq_false.mp none earlier settles ?_
    rw [decide_eq_true (same.trans joins.symm), decide_eq_true later, decide_eq_true past]
    rfl

/-- The relay is right about who has joined, unless a join or leave was overtaken. -/
theorem Marked.isJoined_eq (marked : run.Marked client) (delivering : run.Delivering first lead)
    (ahead : 1 ≤ lead.toNat) :
    run.host.relay.isJoined client run.host.machine.state =
      if run.overtaken client then (run.host.machine.state.avatarOf? client).isSome
      else run.standing client := by
  rw [Relay.isJoined_eq, marked.contains_marks delivering ahead,
    marked.contains_marks delivering ahead, standing]
  generalize (run.latest? client).bind (fun last => last.command.standing? client) = latest
  generalize (run.host.machine.state.avatarOf? client).isSome = present
  cases run.overtaken client with
  | true => simp
  | false => rcases latest with _ | _ | _ <;> simp

/-- With a lead of one tick nothing is overtaken. -/
theorem Delivering.not_overtaken (delivering : run.Delivering first lead) (short : lead.toNat = 1)
    (client : ClientId) : run.overtaken client = false := by
  rw [overtaken, delivering.latest?_eq]
  cases found : ((run.settlements client).getLast?.filter fun last =>
      run.tick < last.command.tick) with
  | none => rfl
  | some last =>
    obtain ⟨isLast, waits⟩ := Option.filter_eq_some_iff.mp found
    have known := List.mem_of_mem_filter (List.mem_of_getLast? isLast)
    have pinned := (delivering.pinned last known).1
    have after := UInt64.lt_iff_toNat_lt.mp (of_decide_eq_true waits)
    refine List.any_eq_false.mpr fun earlier _ taken => ?_
    rw [Bool.and_eq_true, Bool.and_eq_true, decide_eq_true_eq, decide_eq_true_eq,
      decide_eq_true_eq] at taken
    have later := UInt64.lt_iff_toNat_lt.mp taken.1.2
    have past := UInt64.le_iff_toNat_le.mp taken.2
    omega

end HostRun

/-! ## Rejections -/

namespace Relay

variable {relay : Relay} {client : ClientId} {request : Command} {machine : Machine}

theorem submit_error_iff {rejection : Rejection}
    (counted : relay.checkCount client request.clientSeq = .ok ()) :
    relay.submit client request machine = .error rejection ↔
      relay.checkAction client machine request.action = .error rejection := by
  rw [submit, counted]
  cases relay.checkAction client machine request.action with
  | error other =>
    exact ⟨fun same => congrArg Except.error (Except.error.inj same),
      fun same => congrArg Except.error (Except.error.inj same)⟩
  | ok permitted =>
    constructor
    · intro same
      cases same
    · intro same
      cases same

/-- A client that has joined cannot join again. -/
theorem submit_alreadyJoined_iff (counted : relay.checkCount client request.clientSeq = .ok ()) :
    relay.submit client request machine = .error .alreadyJoined ↔
      (∃ name, request.action = .join name) ∧ relay.isJoined client machine.state = true := by
  rw [submit_error_iff counted]
  cases request.action <;> grind [checkAction]

/-- A client that has not joined can do nothing else. -/
theorem submit_notJoined_iff (counted : relay.checkCount client request.clientSeq = .ok ()) :
    relay.submit client request machine = .error .notJoined ↔
      (∀ name, request.action ≠ .join name) ∧ relay.isJoined client machine.state = false := by
  rw [submit_error_iff counted]
  cases request.action <;> grind [checkAction]

end Relay

/-! ## Runs -/

namespace Host

theorem run_marked (machine : Machine) (lead seed : UInt64) (calls : List HostCall)
    (client : ClientId) (few : calls.length < 2 ^ 64)
    (room : machine.state.tick.toNat + HostCall.steps calls + (max lead 1).toNat < 2 ^ 64) :
    ((Host.mk machine (Relay.new lead) seed).run calls).Marked client := by
  refine run_induction_delivering (motive := fun _ run => run.Marked client) ?_ ?_ calls few room
  · intro joined
    refine ⟨fun marked => ?_, fun ⟨_, isLast, _⟩ => nomatch isLast⟩
    cases joined <;> exact nomatch marked
  · intro _ call run delivering room marked
    have ahead := one_le_lead lead
    exact marked.extend delivering call (by omega)

/-- **Who has joined is known exactly**, unless the most recent join or leave that is in the queue
was overtaken by an earlier one, which does not happen with a lead of one tick. Then the relay goes
by whether the client has an avatar. It rejects what a client asks for accordingly. -/
theorem run_isJoined (machine : Machine) (lead seed : UInt64) (calls : List HostCall)
    (few : calls.length < 2 ^ 64)
    (room : machine.state.tick.toNat + HostCall.steps calls + (max lead 1).toNat < 2 ^ 64)
    (client : ClientId) :
    let run := (Host.mk machine (Relay.new lead) seed).run calls
    let relay := run.host.relay
    let joined := if run.overtaken client then (run.host.machine.state.avatarOf? client).isSome
      else run.standing client
    relay.isJoined client run.host.machine.state = joined ∧
      (lead ≤ 1 → run.overtaken client = false) ∧
      ∀ request, relay.checkCount client request.clientSeq = .ok () →
        (relay.submit client request run.host.machine = .error .alreadyJoined ↔
          (∃ name, request.action = .join name) ∧ joined = true) ∧
        (relay.submit client request run.host.machine = .error .notJoined ↔
          (∀ name, request.action ≠ .join name) ∧ joined = false) := by
  intro run relay joined
  obtain ⟨delivering, _, _⟩ := run_delivering machine lead seed calls few room
  have marked := run_marked machine lead seed calls client few room
  have exactly : relay.isJoined client run.host.machine.state = joined :=
    marked.isJoined_eq delivering (one_le_lead lead)
  refine ⟨exactly, fun short => ?_, fun request counted => ?_⟩
  · have one : max lead 1 = 1 := if_pos short
    exact delivering.not_overtaken (congrArg UInt64.toNat one) client
  · rw [← exactly]
    exact ⟨Relay.submit_alreadyJoined_iff counted, Relay.submit_notJoined_iff counted⟩

/-- A client that is about to join asks to leave again. Both are in the queue, and the client does
not count as joined any more, so that it may not say anything. -/
theorem run_isJoined_leaving :
    let calls : List HostCall :=
      [.submit ⟨1⟩ ⟨1, 0, .join "ava"⟩, .step, .submit ⟨1⟩ ⟨2, 0, .leave⟩]
    let run := (Host.mk (Machine.new default default) (Relay.new 2) 0).run calls
    calls.length < 2 ^ 64 ∧
      (0 : UInt64).toNat + HostCall.steps calls + (max (2 : UInt64) 1).toNat < 2 ^ 64 ∧
      run.host.relay.pending.values.flatten = [⟨1, 2, ⟨1⟩, .join "ava"⟩, ⟨2, 3, ⟨1⟩, .leave⟩] ∧
      run.host.relay.isJoined ⟨1⟩ run.host.machine.state = false ∧
      run.host.relay.submit ⟨1⟩ ⟨3, 0, .chat "bye"⟩ run.host.machine = .error .notJoined := by
  intro calls run
  have few : calls.length < 2 ^ 64 := by decide
  have room : (0 : UInt64).toNat + HostCall.steps calls + (max (2 : UInt64) 1).toNat < 2 ^ 64 := by
    decide
  obtain ⟨exactly, _, rejects⟩ :=
    run_isJoined (Machine.new default default) 2 0 calls few room ⟨1⟩
  have absent : (if run.overtaken ⟨1⟩ then (run.host.machine.state.avatarOf? ⟨1⟩).isSome
      else run.standing ⟨1⟩) = false := by decide +kernel
  have counted : run.host.relay.checkCount ⟨1⟩ 3 = .ok () := by decide +kernel
  refine ⟨few, room, by decide +kernel, exactly.trans absent, ?_⟩
  exact (rejects ⟨3, 0, .chat "bye"⟩ counted).2.mpr ⟨(fun _ same => nomatch same), absent⟩

/-- A client joins, leaves and joins again in three ticks, before the first of these takes effect.
When its leave has taken effect, its last join is still in the queue, but the client does not count
as joined and may not say anything. -/
theorem run_isJoined_overtaken :
    let calls : List HostCall :=
      [.submit ⟨1⟩ ⟨1, 0, .join "ava"⟩, .step, .submit ⟨1⟩ ⟨2, 0, .leave⟩, .step,
        .submit ⟨1⟩ ⟨3, 0, .join "ava"⟩, .step, .step]
    let run := (Host.mk (Machine.new default default) (Relay.new 3) 0).run calls
    run.host.relay.pending.values.flatten = [⟨3, 5, ⟨1⟩, .join "ava"⟩] ∧
      run.standing ⟨1⟩ = true ∧
      run.host.relay.isJoined ⟨1⟩ run.host.machine.state = false ∧
      run.host.relay.submit ⟨1⟩ ⟨4, 0, .chat "hi"⟩ run.host.machine = .error .notJoined := by
  decide +kernel

end Host
end Lockstep
