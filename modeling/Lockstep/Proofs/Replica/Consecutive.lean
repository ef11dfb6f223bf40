import Lockstep.Proofs.Replica.Handling

/-!
# Which ticks a replica applies

Whatever a replica is sent, the ticks that it applies after a welcome follow the tick of the
snapshot one by one, and its machine is the one that runs exactly these ticks from the snapshot
(`Replica.applies_consecutively`). No other message changes the machine.

That the next tick of a machine is meant by a broadcast is decided by numbers that go round. The
router makes the difference: it has let a tick through or was set by a welcome, and then it never
lets the tick 0 through, which is the only one that the last tick of all could go round to
(`Replica.Runs`).
-/

set_option autoImplicit false

namespace Lockstep

/-- What the tick of a broadcast is run with. -/
def BroadcastTick.input (tick : BroadcastTick) : TickInput := ⟨tick.commands, tick.seed⟩

namespace Replica

variable {machine : Machine} {replica next : Replica} {message : ServerMessage}
  {answer : Except ReplicaError ReplicaEvent}

/-- The broadcast that was applied according to the answer to a message. -/
def appliedBroadcast? (message : ServerMessage) (answer : Except ReplicaError ReplicaEvent) :
    Option BroadcastTick :=
  match message with
  | .broadcastTick tick => (application? answer).map fun _ => tick
  | _ => none

/-- The broadcasts that are applied when a replica handles some messages. -/
def appliedBroadcasts (replica : Replica) (messages : List ServerMessage) : List BroadcastTick :=
  (messages.zip (replica.answers messages)).filterMap fun told => appliedBroadcast? told.1 told.2

/-- The ticks that are applied when a replica handles some messages, as it answers them, with
whether they were found in sync. -/
def applications (replica : Replica) (messages : List ServerMessage) : List (UInt64 × Bool) :=
  (replica.answers messages).filterMap application?

/-! ## One message -/

/-- Only a welcome and a tick that is applied change the machine. -/
theorem Handles.machine_eq (handles : replica.Handles message answer next)
    (goesOn : startsOver answer = false) (idle : application? answer = none) :
    next.machine = replica.machine := by
  cases handles with
  | applies => exact nomatch idle
  | restarts => exact nomatch goesOn
  | _ => rfl

/-- The counters go up with the ticks that are applied, and with those of them that are not found
in sync. -/
theorem Handles.counters (handles : replica.Handles message answer next) :
    let applications := (application? answer).toList
    next.applied = replica.applied + UInt64.ofNat applications.length ∧
      next.desyncs =
        replica.desyncs + UInt64.ofNat (applications.countP fun entry => !entry.2) := by
  cases handles with
  | @applies tick machine _ _ _ =>
    refine ⟨rfl, ?_⟩
    by_cases inSync : (machine.runTick tick.commands tick.seed).report.stateHash = tick.stateHash
    · simp [apply, application?, inSync]
    · simp [apply, application?, inSync]
  | _ => exact ⟨(UInt64.add_zero _).symm, (UInt64.add_zero _).symm⟩

/-- A tick that follows and is not 0 has not gone round. -/
theorem toNat_succ_of_pos {tick : UInt64} (positive : 0 < tick + 1) :
    (tick + 1).toNat = tick.toNat + 1 := by
  have positive : 0 < (tick + 1).toNat := UInt64.lt_iff_toNat_lt.mp positive
  rw [UInt64.toNat_add, UInt64.toNat_one] at positive ⊢
  have bound := tick.toNat_lt
  omega

/-- A replica that runs a machine, and whose router keeps at least the tick 0 out. -/
structure Runs (machine : Machine) (replica : Replica) : Prop where
  machine : replica.machine = some machine
  used : replica.router.lastApplied ≠ none

/-- A replica that runs a machine goes on with it, or applies the tick that follows. -/
theorem Runs.step (runs : Runs machine replica) (handles : replica.Handles message answer next)
    (goesOn : startsOver answer = false) :
    (application? answer = none ∧ Runs machine next) ∨
      ∃ tick inSync, message = .broadcastTick tick ∧
        answer = .ok (.tickApplied tick.tick inSync) ∧
        tick.tick = machine.state.tick + 1 ∧
        tick.tick.toNat = machine.state.tick.toNat + 1 ∧
        Runs (machine.runTick tick.commands tick.seed).machine next := by
  obtain ⟨held, used⟩ := runs
  cases handles with
  | applies admits other follows =>
    obtain rfl := Option.some.inj (held.symm.trans other)
    have positive := follows ▸ admits.pos used
    exact .inr ⟨_, _, rfl, rfl, follows, follows ▸ toNat_succ_of_pos positive, rfl,
      Option.some_ne_none _⟩
  | waits absent => exact nomatch absent.symm.trans held
  | skips admits _ apart => exact .inl ⟨rfl, held, Option.some_ne_none _⟩
  | restarts spoken read => exact nomatch goesOn
  | _ => exact .inl ⟨rfl, held, used⟩

/-- A welcome that is accepted starts from its snapshot. -/
theorem Handles.welcomed {content : Welcome}
    (handles : replica.Handles (.direct (.welcome content)) answer next)
    (started : startsOver answer = true) :
    ∃ state, State.ofSnapshot? content.snapshot = some state ∧
      Runs ⟨replica.library, ⟨content.instructionBudget, replica.settings.avatar⟩, state⟩ next := by
  cases handles with
  | mismatches other => exact nomatch started
  | misreads unread => exact nomatch started
  | restarts spoken read => exact ⟨_, read, rfl, Option.some_ne_none _⟩

/-! ## Many messages -/

theorem counters_afterMessages (replica : Replica) (messages : List ServerMessage) :
    (replica.afterMessages messages).applied =
        replica.applied + UInt64.ofNat (replica.applications messages).length ∧
      (replica.afterMessages messages).desyncs =
        replica.desyncs +
          UInt64.ofNat ((replica.applications messages).countP fun entry => !entry.2) := by
  induction messages generalizing replica with
  | nil => exact ⟨(UInt64.add_zero _).symm, (UInt64.add_zero _).symm⟩
  | cons message rest inductionHypothesis =>
    obtain ⟨applied, desyncs⟩ := (replica.handles_handle message).counters
    obtain ⟨restApplied, restDesyncs⟩ := inductionHypothesis (replica.handle message).2.2
    have split : replica.applications (message :: rest) =
        (application? (replica.handle message).1).toList ++
          (replica.handle message).2.2.applications rest := by
      rw [applications, answers, List.filterMap_cons]
      cases application? (replica.handle message).1 <;> rfl
    rw [split, List.length_append, List.countP_append, UInt64.ofNat_add, UInt64.ofNat_add,
      ← UInt64.add_assoc, ← UInt64.add_assoc, ← applied, ← desyncs]
    exact ⟨restApplied, restDesyncs⟩

/-- A replica that has not been welcomed applies nothing. -/
theorem waits_afterMessages {messages : List ServerMessage} (absent : replica.machine = none)
    (goesOn : ∀ answer ∈ replica.answers messages, startsOver answer = false) :
    replica.applications messages = [] ∧ (replica.afterMessages messages).machine = none := by
  induction messages generalizing replica with
  | nil => exact ⟨rfl, absent⟩
  | cons message rest inductionHypothesis =>
    obtain ⟨first, others⟩ := List.forall_mem_cons.mp goesOn
    have handles := replica.handles_handle message
    have idle : application? (replica.handle message).1 = none := by
      generalize (replica.handle message).1 = answer, (replica.handle message).2.2 = next at handles
      cases handles with
      | applies _ held => exact nomatch absent.symm.trans held
      | _ => rfl
    obtain ⟨none, final⟩ :=
      inductionHypothesis ((handles.machine_eq first idle).trans absent) others
    exact ⟨(List.filterMap_cons_none idle).trans none, final⟩

/-- A replica that runs a machine applies the ticks that follow, one by one, and ends with the
machine after them. -/
theorem Runs.run {messages : List ServerMessage} (runs : Runs machine replica)
    (goesOn : ∀ answer ∈ replica.answers messages, startsOver answer = false) :
    let ticks := replica.appliedBroadcasts messages
    (replica.applications messages).map Prod.fst = ticks.map BroadcastTick.tick ∧
      ticks.map (fun tick => tick.tick.toNat) =
        List.range' (machine.state.tick.toNat + 1) ticks.length ∧
      Runs (machine.afterTicks (ticks.map BroadcastTick.input))
        (replica.afterMessages messages) := by
  intro ticks
  induction messages generalizing replica machine with
  | nil => exact ⟨rfl, rfl, runs⟩
  | cons message rest inductionHypothesis =>
    obtain ⟨first, others⟩ := List.forall_mem_cons.mp goesOn
    obtain ⟨idle, still⟩ | ⟨tick, inSync, rfl, applied, follows, next, further⟩ :=
      runs.step (replica.handles_handle message) first
    · obtain ⟨same, numbers, final⟩ := inductionHypothesis still others
      have unapplied : appliedBroadcast? message (replica.handle message).1 = none := by
        cases message with
        | broadcastTick tick => rw [appliedBroadcast?, idle]; rfl
        | _ => rfl
      have skipped : ticks = (replica.handle message).2.2.appliedBroadcasts rest :=
        List.filterMap_cons_none unapplied
      have unanswered : replica.applications (message :: rest) =
          (replica.handle message).2.2.applications rest := List.filterMap_cons_none idle
      rw [skipped, unanswered]
      exact ⟨same, numbers, final⟩
    · obtain ⟨same, numbers, final⟩ := inductionHypothesis further others
      have counted :
          application? (replica.handle (.broadcastTick tick)).1 = some (tick.tick, inSync) := by
        rw [applied]; rfl
      have found : appliedBroadcast? (.broadcastTick tick)
          (replica.handle (.broadcastTick tick)).1 = some tick := by
        rw [appliedBroadcast?, counted]; rfl
      have taken : ticks =
          tick :: (replica.handle (.broadcastTick tick)).2.2.appliedBroadcasts rest :=
        List.filterMap_cons_some found
      have answered : replica.applications (.broadcastTick tick :: rest) =
          (tick.tick, inSync) :: (replica.handle (.broadcastTick tick)).2.2.applications rest :=
        List.filterMap_cons_some counted
      have stepped : (machine.runTick tick.commands tick.seed).machine.state.tick.toNat =
          machine.state.tick.toNat + 1 := (congrArg UInt64.toNat follows).symm.trans next
      rw [stepped] at numbers
      rw [taken, answered]
      exact ⟨congrArg (tick.tick :: ·) same, congrArg₂ List.cons next numbers, final⟩

/-- **A replica applies ticks one by one and at most once, whatever it is sent.** Let it have been
told anything so far.

* Its counters say how many ticks it has applied, and how many of them it did not find in sync.
* Before the first welcome it has no machine and has applied nothing.
* A message that is neither a welcome nor a tick that is applied leaves its machine as it is.
* After a welcome and till the next one, the ticks that it applies are the numbers after the tick of
  the snapshot, in their order, and its machine is the snapshot's with exactly these broadcasts run
  on it. -/
theorem applies_consecutively (library : Library) (settings : Settings)
    (messages : List ServerMessage) :
    let fresh := new library settings
    let told := fresh.afterMessages messages
    (told.applied = UInt64.ofNat (fresh.applications messages).length ∧
        told.desyncs =
          UInt64.ofNat ((fresh.applications messages).countP fun entry => !entry.2)) ∧
      ((∀ answer ∈ fresh.answers messages, startsOver answer = false) →
        fresh.applications messages = [] ∧ told.machine = none) ∧
      (∀ message, startsOver (told.handle message).1 = false →
        application? (told.handle message).1 = none →
          (told.handle message).2.2.machine = told.machine) ∧
      ∀ content later,
        let welcomed := told.handle (.direct (.welcome content))
        let ticks := welcomed.2.2.appliedBroadcasts later
        startsOver welcomed.1 = true →
          (∀ answer ∈ welcomed.2.2.answers later, startsOver answer = false) →
            ∃ start, State.ofSnapshot? content.snapshot = some start ∧
              (welcomed.2.2.applications later).map Prod.fst = ticks.map BroadcastTick.tick ∧
              ticks.map (fun tick => tick.tick.toNat) =
                List.range' (start.tick.toNat + 1) ticks.length ∧
              (welcomed.2.2.afterMessages later).machine =
                some (Machine.afterTicks
                  ⟨library, ⟨content.instructionBudget, settings.avatar⟩, start⟩
                  (ticks.map BroadcastTick.input)) := by
  intro fresh told
  refine ⟨?_, waits_afterMessages rfl, fun message => (told.handles_handle message).machine_eq,
    ?_⟩
  · obtain ⟨applied, desyncs⟩ := fresh.counters_afterMessages messages
    exact ⟨applied.trans (UInt64.zero_add _), desyncs.trans (UInt64.zero_add _)⟩
  · intro content later welcomed ticks started goesOn
    have handles := told.handles_handle (.direct (.welcome content))
    obtain ⟨start, read, runs⟩ := handles.welcomed started
    obtain ⟨same, numbers, final, _⟩ := runs.run goesOn
    obtain ⟨ownLibrary, ownAvatar⟩ := fresh.afterMessages_library messages
    have own : told.settings.avatar = settings.avatar := ownAvatar
    refine ⟨start, read, same, numbers, final.trans ?_⟩
    rw [show told.library = library from ownLibrary, own]

/-- A replica is welcomed before the first tick. It is sent the first tick with a wrong hash, the
third one, and the second one, which it drops. Then it is welcomed after the second tick and sent
the second and the third one, of which it applies the third. -/
theorem applies_consecutively_gap :
    let server := Machine.new default default
    let first := server.runTick [⟨1, 1, ⟨2⟩, .join "ava"⟩] 7
    let second := first.machine.runTick [] 8
    let third := second.machine.runTick [] 9
    let fresh := new default default
    let earlier : List ServerMessage :=
      [.direct (.welcome (server.welcomeOf ⟨1⟩)),
        .broadcastTick { first.report.broadcast with stateHash := [] },
        .broadcastTick third.report.broadcast, .broadcastTick second.report.broadcast]
    let content := second.machine.welcomeOf ⟨1⟩
    let later : List ServerMessage :=
      [.broadcastTick second.report.broadcast, .direct (.notice ⟨⟨1⟩, 3⟩),
        .broadcastTick third.report.broadcast]
    let told := fresh.afterMessages earlier
    let welcomed := told.handle (.direct (.welcome content))
    (told.applied = 1 ∧ told.desyncs = 1) ∧ startsOver welcomed.1 = true ∧
      (∀ answer ∈ welcomed.2.2.answers later, startsOver answer = false) ∧
      ∃ start, State.ofSnapshot? content.snapshot = some start ∧
        (welcomed.2.2.applications later).map Prod.fst = [3] ∧
        (welcomed.2.2.afterMessages later).machine =
          some (Machine.afterTicks ⟨default, ⟨content.instructionBudget, default⟩, start⟩
            [third.report.broadcast.input]) := by
  intro server first second third fresh earlier content later told welcomed
  have started : startsOver welcomed.1 = true := by decide +kernel
  have goesOn : ∀ answer ∈ welcomed.2.2.answers later, startsOver answer = false := by
    decide +kernel
  have counted : fresh.applications earlier = [(1, false)] := by decide +kernel
  have ticks : welcomed.2.2.appliedBroadcasts later = [third.report.broadcast] := by decide +kernel
  have number : third.report.broadcast.tick = 3 := rfl
  -- Nothing below is computed, so the runs are forgotten.
  clear_value earlier later content third
  obtain ⟨⟨applied, desyncs⟩, _, _, follows⟩ := applies_consecutively default default earlier
  obtain ⟨start, read, numbers, -, final⟩ := follows content later started goesOn
  exact ⟨⟨applied.trans (by rw [counted]; rfl), desyncs.trans (by rw [counted]; rfl)⟩, started,
    goesOn, start, read, numbers.trans (by rw [ticks, ← number]; rfl),
    final.trans (by rw [ticks]; rfl)⟩

end Replica
end Lockstep
