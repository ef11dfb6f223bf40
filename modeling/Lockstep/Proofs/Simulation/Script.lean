import Mathlib.Algebra.BigOperators.Group.Finset.Basic
import Mathlib.Algebra.Order.BigOperators.Group.Finset
import Mathlib.Data.List.TakeWhile
import Lockstep.Proofs.Simulation.Submission
import Lockstep.Proofs.World.Instantiate

/-!
# Scripts are carried out on time

A simulation submits every entry of its script once, in the order of the script, and in the tick of
the entry. What the relay accepts is in the report of the tick that is the lead after that, and in
no other, and nothing else is in any report. What it rejects is listed with its tick
(`Simulation.simulate_delivers`). More ticks change nothing of the reports of the first ones.

The invariant (`Simulation.OnTime`) splits the script into the entries that were submitted and the
ones that are still to come. One tick takes the entries of the tick off the second part, because the
script is in order (`OnTime.step`).
-/

set_option autoImplicit false

namespace Lockstep

/-! ## Scripts in order -/

/-- The entries of a script are in the order of their ticks. -/
def ScriptOrdered (script : List ScriptEntry) : Prop :=
  script.Pairwise fun earlier later => earlier.tick ≤ later.tick

theorem sortScript_ordered (script : List ScriptEntry) : ScriptOrdered (sortScript script) := by
  refine List.Pairwise.imp of_decide_eq_true (List.pairwise_mergeSort ?_ ?_ script)
  · intro first second third firstSecond secondThird
    exact decide_eq_true
      (UInt64.le_trans (of_decide_eq_true firstSecond) (of_decide_eq_true secondThird))
  · intro first second
    rw [Bool.or_eq_true, decide_eq_true_eq, decide_eq_true_eq]
    exact UInt64.le_total first.tick second.tick

/-- Behind the first entry that is still to come all are still to come. -/
theorem ScriptOrdered.lt_of_mem_dropWhile {script : List ScriptEntry}
    (ordered : ScriptOrdered script) {now : UInt64} {entry : ScriptEntry}
    (member : entry ∈ script.dropWhile fun entry => entry.tick ≤ now) : now < entry.tick := by
  have rest : ScriptOrdered (script.dropWhile fun entry => entry.tick ≤ now) :=
    ordered.sublist (List.dropWhile_sublist _)
  cases remaining : script.dropWhile fun entry => entry.tick ≤ now with
  | nil =>
    rw [remaining] at member
    exact absurd member List.not_mem_nil
  | cons first others =>
    rw [remaining] at member rest
    have waits : ¬ first.tick ≤ now := by
      have kept := List.head_dropWhile_not (fun entry : ScriptEntry => decide (entry.tick ≤ now))
        (by rw [remaining]; exact List.cons_ne_nil first others)
      simpa [remaining] using kept
    rcases List.mem_cons.mp member with rfl | later
    · exact UInt64.not_le.mp waits
    · have after := (List.pairwise_cons.mp rest).1 entry later
      exact UInt64.lt_of_lt_of_le (UInt64.not_le.mp waits) after

/-- There are no more clients than numbers of thirty-two bits. -/
theorem card_clients_le (clients : Finset ClientId) : clients.card ≤ 2 ^ 32 := by
  rw [← Finset.card_range (2 ^ 32)]
  refine Finset.card_le_card_of_injOn (fun client => client.number.toNat) ?_ ?_
  · intro client _
    exact Finset.mem_coe.mpr (Finset.mem_range.mpr client.number.toNat_lt)
  · rintro ⟨first⟩ _ ⟨second⟩ _ same
    exact congrArg ClientId.mk (UInt32.toNat_inj.mp same)

/-- So if each client has less than 2 ^ 32 entries, there are less than 2 ^ 64 in all. -/
theorem length_lt_of_countP_lt {script : List ScriptEntry}
    (few : ∀ client, script.countP (·.client = client) < 2 ^ 32) : script.length + 1 < 2 ^ 64 := by
  let clients := script.map ScriptEntry.client
  have each : ∀ client ∈ clients.toFinset, clients.count client ≤ 2 ^ 32 - 1 := by
    intro client _
    have count : clients.count client = script.countP (·.client = client) := by
      rw [List.count, List.countP_map]
      refine List.countP_congr fun entry _ => ?_
      simp
    rw [count]
    exact Nat.le_sub_one_of_lt (few client)
  have total : script.length ≤ 2 ^ 32 * (2 ^ 32 - 1) := calc
    script.length = ∑ client ∈ clients.toFinset, clients.count client := by
      rw [List.sum_toFinset_count_eq_length, List.length_map]
    _ ≤ clients.toFinset.card • (2 ^ 32 - 1) := Finset.sum_le_card_nsmul _ _ _ each
    _ ≤ 2 ^ 32 * (2 ^ 32 - 1) := Nat.mul_le_mul_right _ (card_clients_le _)
  exact Nat.lt_of_le_of_lt (Nat.succ_le_succ total) (by decide)

namespace Simulation

/-! ## The submissions of a run -/

/-- The entries of the script whose time has come. -/
def due (simulation : Simulation) : List ScriptEntry :=
  simulation.script.takeWhile fun entry => entry.tick ≤ simulation.host.machine.state.tick

/-- The simulation with what is left of the script. -/
def awaiting (simulation : Simulation) : Simulation :=
  { simulation with
    script := simulation.script.dropWhile fun entry =>
      entry.tick ≤ simulation.host.machine.state.tick }

/-- What is submitted in some ticks. -/
def submitted : Nat → Simulation → List Submission
  | 0, _ => []
  | ticks + 1, simulation =>
    simulation.awaiting.submissions simulation.due ++ simulation.step.submitted ticks

theorem step_eq (simulation : Simulation) :
    let ready := simulation.due.foldl submit simulation.awaiting
    ∃ trace, simulation.step =
      { ready with
        host := ready.host.step.2.2
        reports := ready.host.step.1 :: ready.reports
        trace } :=
  ⟨_, rfl⟩

theorem script_step (simulation : Simulation) :
    simulation.step.script = simulation.awaiting.script :=
  simulation.awaiting.script_submits simulation.due

theorem reports_step (simulation : Simulation) :
    ∃ report, simulation.step.reports = report :: simulation.reports := by
  obtain ⟨trace, step⟩ := simulation.step_eq
  rw [step, reports_submits]
  exact ⟨_, rfl⟩

theorem length_reports_step (simulation : Simulation) :
    simulation.step.reports.length = simulation.reports.length + 1 := by
  obtain ⟨report, reports⟩ := simulation.reports_step
  rw [reports, List.length_cons]

/-- More ticks leave the reports there are. -/
theorem reports_run (ticks : Nat) (simulation : Simulation) :
    ∃ later, (simulation.run ticks).reports.reverse = simulation.reports.reverse ++ later := by
  induction ticks generalizing simulation with
  | zero => exact ⟨[], (List.append_nil _).symm⟩
  | succ ticks inductionHypothesis =>
    obtain ⟨report, step⟩ := simulation.reports_step
    obtain ⟨later, run⟩ := inductionHypothesis simulation.step
    rw [step, List.reverse_cons, List.append_assoc] at run
    exact ⟨[report] ++ later, run⟩

theorem run_add (first second : Nat) (simulation : Simulation) :
    simulation.run (first + second) = (simulation.run first).run second := by
  induction first generalizing simulation with
  | zero => rw [Nat.zero_add, run]
  | succ first inductionHypothesis =>
    rw [Nat.succ_add]
    exact inductionHypothesis simulation.step

/-! ## The invariant -/

open Submission (countOf)

/-- What was submitted is the part of the script whose time is over, and each entry was submitted in
its tick. -/
structure OnTime (script : List ScriptEntry) (lead : UInt64) (simulation : Simulation)
    (submissions : List Submission) : Prop extends Attended lead simulation submissions where
  parts : submissions.map Submission.entry ++ simulation.script = script
  past : ∀ submission ∈ submissions, submission.entry.tick.toNat < simulation.reports.length
  future : ∀ entry ∈ simulation.script, simulation.reports.length ≤ entry.tick.toNat
  prompt : ∀ submission ∈ submissions, submission.tick = submission.entry.tick

theorem Attended.start (world : World) (script : List ScriptEntry) :
    Attended (max world.manifest.commandLead 1) (start world script) [] where
  delivering := by
    have empty := HostRun.Delivering.start world.instantiate world.manifest.commandLead
      world.manifest.seed
    rw [world.instantiate_tick] at empty
    exact empty
  counted _ := rfl
  noted client _ noted :=
    absurd ((Table.get?_empty client).symm.trans noted) (Option.some_ne_none _).symm
  rejected := rfl
  answered _ member := absurd member List.not_mem_nil

theorem OnTime.start (world : World) (script : List ScriptEntry) :
    OnTime script (max world.manifest.commandLead 1) (start world script) [] where
  toAttended := .start world script
  parts := rfl
  past _ member := absurd member List.not_mem_nil
  future _ _ := Nat.zero_le _
  prompt _ member := absurd member List.not_mem_nil

namespace OnTime

variable {script : List ScriptEntry} {lead : UInt64} {simulation : Simulation}
  {submissions : List Submission}

theorem now (onTime : OnTime script lead simulation submissions) :
    simulation.host.machine.state.tick.toNat = simulation.reports.length := by
  have now := onTime.delivering.now
  rwa [hostRun, List.length_reverse, Nat.zero_add] at now

/-- An entry whose time has come is of the present tick. -/
theorem tick_of_mem_due (onTime : OnTime script lead simulation submissions) {entry : ScriptEntry}
    (member : entry ∈ simulation.due) : entry.tick = simulation.host.machine.state.tick := by
  rw [due] at member
  have reached := List.mem_takeWhile_imp member
  refine UInt64.le_antisymm (of_decide_eq_true reached) ?_
  rw [UInt64.le_iff_toNat_le, onTime.now]
  exact onTime.future entry ((List.takeWhile_sublist _).subset member)

/-- What is submitted in one tick, and what is left. -/
theorem parts_step (onTime : OnTime script lead simulation submissions) :
    submissions.map Submission.entry ++ (simulation.due ++ simulation.awaiting.script) =
      script := by
  rw [due, awaiting, List.takeWhile_append_dropWhile]
  exact onTime.parts

theorem countOf_due_le (onTime : OnTime script lead simulation submissions) (client : ClientId) :
    countOf client submissions + simulation.due.countP (·.client = client) ≤
      script.countP (·.client = client) := by
  rw [← onTime.parts_step, List.countP_append, List.countP_append, List.countP_map]
  exact Nat.add_le_add_left (Nat.le_add_right _ _) _

theorem length_due_le (onTime : OnTime script lead simulation submissions) :
    submissions.length + simulation.due.length ≤ script.length := by
  rw [← onTime.parts_step, List.length_append, List.length_append, List.length_map]
  exact Nat.add_le_add_left (Nat.le_add_right _ _) _

/-- What is submitted in a tick is of the tick. -/
theorem prompt_step (onTime : OnTime script lead simulation submissions) {submission : Submission}
    (member : submission ∈ simulation.awaiting.submissions simulation.due) :
    submission.tick = submission.entry.tick ∧
      submission.entry.tick.toNat = simulation.reports.length := by
  have entry : submission.entry ∈ simulation.due := by
    rw [← simulation.awaiting.map_entry_submissions simulation.due]
    exact List.mem_map_of_mem member
  have time := onTime.tick_of_mem_due entry
  exact ⟨(tick_of_mem_submissions member).trans time.symm, (congrArg _ time).trans onTime.now⟩

theorem attended_step (onTime : OnTime script lead simulation submissions)
    (ahead : 1 ≤ lead.toNat) (room : simulation.reports.length + 1 + lead.toNat < 2 ^ 64)
    (few : ∀ client, script.countP (·.client = client) < 2 ^ 32) :
    Attended lead simulation.step
      (submissions ++ simulation.awaiting.submissions simulation.due) := by
  have total := length_lt_of_countP_lt few
  have awaiting : Attended lead simulation.awaiting submissions :=
    ⟨onTime.delivering, onTime.counted, onTime.noted, onTime.rejected, onTime.answered⟩
  have earlier : simulation.reports.length + lead.toNat < 2 ^ 64 := by omega
  have ready := awaiting.submits ahead earlier
    (Nat.lt_of_le_of_lt onTime.length_due_le (Nat.lt_of_succ_lt total))
    fun client => Nat.lt_of_le_of_lt (onTime.countOf_due_le client) (few client)
  obtain ⟨trace, step⟩ := simulation.step_eq
  rw [step]
  refine ready.step ahead ?_ ?_ trace
  · rw [reports_submits]
    exact room
  · rw [List.length_append, length_submissions]
    exact Nat.lt_of_le_of_lt (Nat.succ_le_succ onTime.length_due_le) total

/-- **One tick.** -/
theorem step (onTime : OnTime script lead simulation submissions) (ordered : ScriptOrdered script)
    (ahead : 1 ≤ lead.toNat) (room : simulation.reports.length + 1 + lead.toNat < 2 ^ 64)
    (few : ∀ client, script.countP (·.client = client) < 2 ^ 32) :
    OnTime script lead simulation.step
      (submissions ++ simulation.awaiting.submissions simulation.due) where
  toAttended := onTime.attended_step ahead room few
  parts := by
    rw [script_step, List.map_append, map_entry_submissions, List.append_assoc]
    exact onTime.parts_step
  past := by
    rw [length_reports_step]
    refine List.forall_mem_append.mpr ⟨fun submission member => ?_, fun submission member => ?_⟩
    · exact Nat.lt_succ_of_lt (onTime.past submission member)
    · exact Nat.lt_succ_of_le (Nat.le_of_eq (onTime.prompt_step member).2)
  future entry member := by
    have remaining : ScriptOrdered simulation.script :=
      ordered.sublist (onTime.parts ▸ List.sublist_append_right _ _)
    rw [script_step] at member
    rw [length_reports_step, ← onTime.now, Nat.succ_le_iff, ← UInt64.lt_iff_toNat_lt]
    exact remaining.lt_of_mem_dropWhile member
  prompt := List.forall_mem_append.mpr
    ⟨onTime.prompt, fun _ member => (onTime.prompt_step member).1⟩

/-- **Some ticks.** -/
theorem run (onTime : OnTime script lead simulation submissions) (ordered : ScriptOrdered script)
    (ahead : 1 ≤ lead.toNat) {ticks : Nat}
    (room : simulation.reports.length + ticks + lead.toNat < 2 ^ 64)
    (few : ∀ client, script.countP (·.client = client) < 2 ^ 32) :
    OnTime script lead (simulation.run ticks) (submissions ++ simulation.submitted ticks) := by
  induction ticks generalizing simulation submissions with
  | zero =>
    rw [submitted, List.append_nil]
    exact onTime
  | succ ticks inductionHypothesis =>
    have next := onTime.step ordered ahead (by omega) few
    rw [submitted, ← List.append_assoc]
    refine inductionHypothesis next ?_
    rw [length_reports_step]
    omega

end OnTime

/-! ## Delivery -/

/-- What has become of a script after some ticks, when commands are pinned a number of ticks
ahead. -/
structure Delivers (script : List ScriptEntry) (lead ticks : Nat) (simulation : Simulation)
    (submissions : List Submission) : Prop where
  /-- The entries of these ticks were submitted, each once and in the order of the script. -/
  entries : submissions.map Submission.entry = script.filter (·.tick.toNat < ticks)
  /-- Each was submitted in its tick. -/
  prompt : ∀ submission ∈ submissions, submission.tick = submission.entry.tick
  /-- What was rejected is listed with its tick. -/
  rejected : simulation.rejections.reverse = submissions.filterMap Submission.rejection?
  /-- Nothing is rejected for its count. -/
  grown : ∀ rejection ∈ simulation.rejections, ∀ last got,
    rejection.reason ≠ .sequenceRegression last got
  /-- What was accepted is what was submitted, and is pinned to the tick that is the lead later. -/
  accepted : ∀ submission ∈ submissions, ∀ command, submission.answer = .ok command →
    command.client = submission.entry.client ∧ command.action = submission.entry.command ∧
      command.tick.toNat = submission.entry.tick.toNat + lead
  /-- There is one report of each tick. -/
  numbered : simulation.reports.reverse.map (fun report => report.tick.toNat) =
    List.range' 1 ticks
  /-- A report has what was accepted and pinned to its tick, in this order, and nothing else. -/
  served : ∀ report ∈ simulation.reports,
    report.commands = (submissions.filterMap Submission.command?).filter (·.tick = report.tick)
  /-- So what was accepted in time is in the report of its tick once. -/
  once : ∀ submission ∈ submissions, ∀ command, submission.answer = .ok command →
    submission.entry.tick.toNat + lead ≤ ticks →
      ∃ report ∈ simulation.reports,
        report.tick.toNat = submission.entry.tick.toNat + lead ∧ report.commands.count command = 1

namespace OnTime

variable {script : List ScriptEntry} {lead : UInt64} {simulation : Simulation}
  {submissions : List Submission}

theorem entries (onTime : OnTime script lead simulation submissions) :
    submissions.map Submission.entry =
      script.filter (·.tick.toNat < simulation.reports.length) := by
  have past : (submissions.map Submission.entry).filter
      (·.tick.toNat < simulation.reports.length) = submissions.map Submission.entry :=
    List.filter_eq_self.mpr (List.forall_mem_map.mpr fun submission member =>
      decide_eq_true (onTime.past submission member))
  have future : simulation.script.filter (·.tick.toNat < simulation.reports.length) = [] :=
    List.filter_eq_nil_iff.mpr fun entry member reached =>
      Nat.not_lt.mpr (onTime.future entry member) (of_decide_eq_true reached)
  rw [← onTime.parts, List.filter_append, past, future, List.append_nil]

theorem grown (onTime : OnTime script lead simulation submissions) {rejection : ScriptRejection}
    (member : rejection ∈ simulation.rejections) (last got : UInt32) :
    rejection.reason ≠ .sequenceRegression last got := by
  have listed := List.mem_reverse.mpr member
  rw [onTime.rejected] at listed
  obtain ⟨submission, member, listed⟩ := List.mem_filterMap.mp listed
  have answered := (onTime.answered submission member).rejected last got
  rw [Submission.rejection?] at listed
  cases answer : submission.answer with
  | ok command =>
    rw [answer] at listed
    exact absurd listed nofun
  | error reason =>
    rw [answer] at listed answered
    obtain rfl := Option.some.inj listed
    exact fun same => answered (congrArg _ same)

/-- What was accepted is pinned to the tick that is the lead after that of the entry. -/
theorem pinned (onTime : OnTime script lead simulation submissions) {submission : Submission}
    (member : submission ∈ submissions) {command : SequencedCommand}
    (accepted : submission.answer = .ok command) :
    command.tick.toNat = submission.entry.tick.toNat + lead.toNat := by
  rw [← onTime.prompt submission member]
  refine (onTime.delivering.pinned ⟨command, submission.tick⟩ ?_).1
  refine List.mem_filterMap.mpr ⟨submission, member, ?_⟩
  rw [Submission.acceptance?, accepted]
  rfl

theorem numbered (onTime : OnTime script lead simulation submissions) :
    simulation.reports.reverse.map (fun report => report.tick.toNat) =
      List.range' 1 simulation.reports.length := by
  rw [← List.length_reverse]
  exact onTime.delivering.numbered

theorem served (onTime : OnTime script lead simulation submissions) {report : TickReport}
    (member : report ∈ simulation.reports) :
    report.commands =
      (submissions.filterMap Submission.command?).filter (·.tick = report.tick) := by
  rw [← simulation.commands_hostRun submissions]
  exact onTime.delivering.served report (List.mem_reverse.mpr member)

/-- All accepted commands differ, because they have different sequence numbers. -/
theorem nodup_commands (onTime : OnTime script lead simulation submissions) :
    (submissions.filterMap Submission.command?).Nodup := by
  rw [← simulation.commands_hostRun submissions]
  refine List.Nodup.of_map (fun command => command.seq.toNat) ?_
  rw [onTime.delivering.seqs]
  exact List.nodup_range'

theorem once (onTime : OnTime script lead simulation submissions) (ahead : 1 ≤ lead.toNat)
    {submission : Submission} (member : submission ∈ submissions) {command : SequencedCommand}
    (accepted : submission.answer = .ok command)
    (reached : submission.entry.tick.toNat + lead.toNat ≤ simulation.reports.length) :
    ∃ report ∈ simulation.reports,
      report.tick.toNat = submission.entry.tick.toNat + lead.toNat ∧
        report.commands.count command = 1 := by
  have present : submission.entry.tick.toNat + lead.toNat ∈
      simulation.reports.reverse.map (fun report => report.tick.toNat) := by
    rw [onTime.numbered, List.mem_range'_1]
    omega
  obtain ⟨report, listed, tick⟩ := List.mem_map.mp present
  have same : command.tick = report.tick := by
    rw [← UInt64.toNat_inj, tick]
    exact onTime.pinned member accepted
  have taken : command ∈ submissions.filterMap Submission.command? := by
    refine List.mem_filterMap.mpr ⟨submission, member, ?_⟩
    rw [Submission.command?, accepted]
    rfl
  refine ⟨report, List.mem_reverse.mp listed, tick, ?_⟩
  rw [onTime.served (List.mem_reverse.mp listed), List.count_filter]
  · exact List.count_eq_one_of_mem onTime.nodup_commands taken
  · exact decide_eq_true same

theorem delivers (onTime : OnTime script lead simulation submissions) (ahead : 1 ≤ lead.toNat) :
    Delivers script lead.toNat simulation.reports.length simulation submissions where
  entries := onTime.entries
  prompt := onTime.prompt
  rejected := onTime.rejected
  grown _ member := onTime.grown member
  accepted submission member command accepted := by
    obtain ⟨client, action⟩ := (onTime.answered submission member).accepted command accepted
    exact ⟨client, action, onTime.pinned member accepted⟩
  numbered := onTime.numbered
  served _ member := onTime.served member
  once _ member _ accepted reached := onTime.once ahead member accepted reached

end OnTime

theorem length_reports_run (ticks : Nat) (simulation : Simulation) :
    (simulation.run ticks).reports.length = simulation.reports.length + ticks := by
  induction ticks generalizing simulation with
  | zero => rfl
  | succ ticks inductionHypothesis =>
    rw [run, inductionHypothesis, length_reports_step]
    omega

/-- **Scripts are carried out on time**: in the ticks of a simulation the entries of an ordered
script are submitted one by one, each in its tick. What is accepted is in the report of the tick
that is the lead later, once and in no other report, and what is rejected is listed. More ticks
leave these reports as they are. -/
theorem simulate_delivers (world : World) {script : List ScriptEntry}
    (ordered : ScriptOrdered script) (ticks : Nat)
    (room : ticks + (max world.manifest.commandLead 1).toNat < 2 ^ 64)
    (few : ∀ client, script.countP (·.client = client) < 2 ^ 32) :
    Delivers script (max world.manifest.commandLead 1).toNat ticks (simulate world script ticks)
        ((start world script).submitted ticks) ∧
      ∀ later, ticks ≤ later →
        (simulate world script later).reports.reverse.take ticks =
          (simulate world script ticks).reports.reverse := by
  have ahead := Host.one_le_lead world.manifest.commandLead
  have length : (simulate world script ticks).reports.length = ticks :=
    ((start world script).length_reports_run ticks).trans (Nat.zero_add ticks)
  constructor
  · have started : (start world script).reports.length + ticks +
        (max world.manifest.commandLead 1).toNat < 2 ^ 64 := by
      rwa [start, List.length_nil, Nat.zero_add]
    have onTime : OnTime script (max world.manifest.commandLead 1) (simulate world script ticks)
        ((start world script).submitted ticks) :=
      (OnTime.start world script).run ordered ahead started few
    have delivers := onTime.delivers ahead
    rwa [length] at delivers
  · intro later after
    obtain ⟨more, rfl⟩ := Nat.exists_eq_add_of_le after
    obtain ⟨others, reports⟩ := (simulate world script ticks).reports_run more
    rw [simulate, run_add, ← simulate, reports]
    exact List.take_left' (by rw [List.length_reverse, length])

/-- A client joins twice before its avatar comes, and the script has another client join after the
last tick. The second command is rejected, and the first one is in the report of the second tick. -/
theorem simulate_delivers_rejoin :
    let world : World := { (default : World) with
      manifest := { Manifest.default with commandLead := 2 } }
    let script : List ScriptEntry :=
      [⟨0, ⟨1⟩, 0, .join "guest"⟩, ⟨1, ⟨1⟩, 0, .join "again"⟩, ⟨9, ⟨2⟩, 0, .join "late"⟩]
    let run := simulate world script 3
    ScriptOrdered script ∧ 3 + (max world.manifest.commandLead 1).toNat < 2 ^ 64 ∧
      (∀ client, script.countP (·.client = client) < 2 ^ 32) ∧
      Delivers script (max world.manifest.commandLead 1).toNat 3 run
        ((start world script).submitted 3) ∧
      run.rejections = [⟨1, ⟨1⟩, .join "again", .alreadyJoined⟩] ∧
      (∀ report ∈ run.reports,
        report.commands = if 2 = report.tick then [⟨1, 2, ⟨1⟩, .join "guest"⟩] else []) ∧
      (simulate world script 5).reports.reverse.take 3 = run.reports.reverse := by
  intro world script run
  have ordered : ScriptOrdered script := by simp [ScriptOrdered, script]
  have room : 3 + (max world.manifest.commandLead 1).toNat < 2 ^ 64 := by decide
  have few (client : ClientId) : script.countP (·.client = client) < 2 ^ 32 :=
    Nat.lt_of_le_of_lt List.countP_le_length (by decide)
  obtain ⟨delivers, same⟩ := simulate_delivers world ordered 3 room few
  have rejections : run.rejections = [⟨1, ⟨1⟩, .join "again", .alreadyJoined⟩] := by decide +kernel
  have accepted : ((start world script).submitted 3).filterMap Submission.command? =
      [⟨1, 2, ⟨1⟩, .join "guest"⟩] := by decide +kernel
  refine ⟨ordered, room, few, delivers, rejections, fun report member => ?_, same 5 (by decide)⟩
  rw [delivers.served report member, accepted, List.filter_singleton]
  by_cases second : 2 = report.tick
  · rw [if_pos second, decide_eq_true second]
    rfl
  · rw [if_neg second, decide_eq_false second]
    rfl

end Simulation
end Lockstep
