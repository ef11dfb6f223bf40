import Lockstep.Proofs.Relay.Standing

/-!
# Submitting a script

A simulation submits the commands of its script. `Submission` says when this was done with one of
them and what the relay answered, and `Simulation.submissions` lists the submissions of some entries
one after the other.

The commands of each client are counted from one, and the relay has never seen a count that is
greater than the number of commands so far. So it never finds a count that does not grow. This and
what is known of the queue (`HostRun.Delivering`) make up `Simulation.Attended`, which is kept by
every submission (`Attended.submit`) and by every step of the host (`Attended.step`).
-/

set_option autoImplicit false

namespace Lockstep

/-! ## The counts of clients -/

namespace Relay

theorem lastClientSeq_mark (relay : Relay) (client : ClientId) (action : CommandAction) :
    (relay.mark client action).lastClientSeq = relay.lastClientSeq := by
  cases action <;> rfl

theorem lastClientSeq_unmarks (relay : Relay) (commands : List SequencedCommand) :
    (commands.foldl unmark relay).lastClientSeq = relay.lastClientSeq := by
  induction commands generalizing relay with
  | nil => rfl
  | cons command rest inductionHypothesis =>
    have first : (relay.unmark command).lastClientSeq = relay.lastClientSeq := by
      rw [unmark]
      cases command.action <;> rfl
    exact (inductionHypothesis (relay.unmark command)).trans first

theorem lastClientSeq_takeForTick (relay : Relay) (tick : UInt64) :
    (relay.takeForTick tick).2.2.lastClientSeq = relay.lastClientSeq :=
  lastClientSeq_unmarks relay _

/-- An accepted command is the one that was submitted, and its count is noted. -/
theorem submit_notes {relay next : Relay} {client : ClientId} {request : Command}
    {machine : Machine} {command : SequencedCommand}
    (submitted : relay.submit client request machine = .ok (command, next)) :
    command.client = client ∧ command.action = request.action ∧
      next.lastClientSeq = relay.lastClientSeq.insert client request.clientSeq := by
  obtain ⟨rfl, rfl⟩ := Prod.mk.inj (submit_eq submitted).2
  exact ⟨rfl, rfl, lastClientSeq_mark _ client request.action⟩

theorem checkAction_ne_sequenceRegression (relay : Relay) (client : ClientId) (machine : Machine)
    (action : CommandAction) (last got : UInt32) :
    relay.checkAction client machine action ≠ .error (.sequenceRegression last got) := by
  cases action <;> grind [checkAction]

/-- A count that is greater than all before is not the reason why a command is rejected. -/
theorem submit_ne_sequenceRegression {relay : Relay} {client : ClientId} {request : Command}
    (machine : Machine)
    (grown : ∀ last, relay.lastClientSeq.get? client = some last → last < request.clientSeq)
    (last got : UInt32) :
    relay.submit client request machine ≠ .error (.sequenceRegression last got) := by
  have counted : relay.checkCount client request.clientSeq = .ok () := by
    rw [checkCount]
    cases noted : relay.lastClientSeq.get? client with
    | none => rfl
    | some before => exact if_neg (UInt32.not_le.mpr (grown before noted))
  rw [Ne, submit_error_iff counted]
  exact relay.checkAction_ne_sequenceRegression client machine request.action last got

end Relay

/-! ## Submissions -/

/-- An entry of a script that was submitted: the tick of the machine at that time, and the answer of
the relay. -/
structure Submission where
  entry : ScriptEntry
  tick : UInt64
  answer : Except Rejection SequencedCommand

namespace Submission

/-- The command that was accepted, with the tick of the machine at that time. -/
def acceptance? (submission : Submission) : Option Acceptance :=
  submission.answer.toOption.map fun command => ⟨command, submission.tick⟩

/-- The command alone. -/
def command? (submission : Submission) : Option SequencedCommand := submission.answer.toOption

/-- What is listed of a command that was rejected. -/
def rejection? (submission : Submission) : Option ScriptRejection :=
  match submission.answer with
  | .ok _ => none
  | .error reason =>
    some ⟨submission.tick, submission.entry.client, submission.entry.command, reason⟩

/-- How many of some submissions are of a client. -/
def countOf (client : ClientId) (submissions : List Submission) : Nat :=
  submissions.countP (·.entry.client = client)

theorem countOf_concat (client : ClientId) (submissions : List Submission)
    (submission : Submission) :
    countOf client (submissions ++ [submission]) =
      countOf client submissions + if submission.entry.client = client then 1 else 0 := by
  simp only [countOf, List.countP_append, List.countP_singleton, decide_eq_true_eq]

/-- The answer is about what was submitted, and does not find fault with the count. -/
structure Answered (submission : Submission) : Prop where
  accepted : ∀ command, submission.answer = .ok command →
    command.client = submission.entry.client ∧ command.action = submission.entry.command
  rejected : ∀ last got, submission.answer ≠ .error (.sequenceRegression last got)

end Submission

namespace Simulation

/-- The command that is submitted for an entry of the script. -/
def request (simulation : Simulation) (entry : ScriptEntry) : Command :=
  ⟨(simulation.clientSeqs.get? entry.client).getD 0 + 1, entry.sentAt, entry.command⟩

/-- The submission of an entry of the script. -/
def submission (simulation : Simulation) (entry : ScriptEntry) : Submission where
  entry
  tick := simulation.host.machine.state.tick
  answer := (simulation.host.submit entry.client (simulation.request entry)).map Prod.fst

/-- The submissions of some entries, one after the other. -/
def submissions (simulation : Simulation) : List ScriptEntry → List Submission
  | [] => []
  | entry :: rest => simulation.submission entry :: (simulation.submit entry).submissions rest

theorem map_entry_submissions (simulation : Simulation) (entries : List ScriptEntry) :
    (simulation.submissions entries).map Submission.entry = entries := by
  induction entries generalizing simulation with
  | nil => rfl
  | cons entry rest inductionHypothesis =>
    exact congrArg (entry :: ·) (inductionHypothesis (simulation.submit entry))

theorem length_submissions (simulation : Simulation) (entries : List ScriptEntry) :
    (simulation.submissions entries).length = entries.length := by
  rw [← List.length_map Submission.entry, simulation.map_entry_submissions]

/-- The counts of all clients after a submission. -/
def countedSeqs (simulation : Simulation) (entry : ScriptEntry) : Table ClientId UInt32 :=
  simulation.clientSeqs.insert entry.client (simulation.request entry).clientSeq

/-- What a submission does to a simulation, and what comes of it. -/
inductive Submits (simulation : Simulation) (entry : ScriptEntry) :
    Simulation → Submission → Prop where
  /-- The command is rejected. -/
  | rejects {reason : Rejection} {trace : List TraceEntry} :
      simulation.host.relay.submit entry.client (simulation.request entry)
        simulation.host.machine = .error reason →
      Submits simulation entry
        { simulation with
          clientSeqs := simulation.countedSeqs entry
          rejections :=
            ⟨simulation.host.machine.state.tick, entry.client, entry.command, reason⟩ ::
              simulation.rejections
          trace }
        ⟨entry, simulation.host.machine.state.tick, .error reason⟩
  /-- The command is accepted. -/
  | accepts {command : SequencedCommand} {relay : Relay} {trace : List TraceEntry} :
      simulation.host.relay.submit entry.client (simulation.request entry)
        simulation.host.machine = .ok (command, relay) →
      Submits simulation entry
        { simulation with
          host := { simulation.host with relay }
          clientSeqs := simulation.countedSeqs entry
          trace }
        ⟨entry, simulation.host.machine.state.tick, .ok command⟩

theorem submits_submit (simulation : Simulation) (entry : ScriptEntry) :
    simulation.Submits entry (simulation.submit entry) (simulation.submission entry) := by
  cases submitted : simulation.host.relay.submit entry.client (simulation.request entry)
      simulation.host.machine with
  | error reason =>
    have refused : simulation.host.submit entry.client (simulation.request entry) =
        .error reason := by
      rw [Host.submit, submitted]
      rfl
    rw [submission, refused]
    rw [request] at refused
    simp only [submit, refused]
    exact .rejects submitted
  | ok outcome =>
    have accepted : simulation.host.submit entry.client (simulation.request entry) =
        .ok (outcome.1, { simulation.host with relay := outcome.2 }) := by
      rw [Host.submit, submitted]
      rfl
    rw [submission, accepted]
    rw [request] at accepted
    simp only [submit, accepted]
    exact .accepts submitted

namespace Submits

variable {simulation next : Simulation} {entry : ScriptEntry} {submission : Submission}

theorem machine (submits : simulation.Submits entry next submission) :
    next.host.machine = simulation.host.machine := by
  cases submits <;> rfl

theorem script (submits : simulation.Submits entry next submission) :
    next.script = simulation.script := by
  cases submits <;> rfl

theorem reports (submits : simulation.Submits entry next submission) :
    next.reports = simulation.reports := by
  cases submits <;> rfl

theorem clientSeqs (submits : simulation.Submits entry next submission) :
    next.clientSeqs = simulation.countedSeqs entry := by
  cases submits <;> rfl

theorem submitted (submits : simulation.Submits entry next submission) :
    submission.entry = entry := by
  cases submits <;> rfl

end Submits

theorem script_submits (simulation : Simulation) (entries : List ScriptEntry) :
    (entries.foldl submit simulation).script = simulation.script := by
  induction entries generalizing simulation with
  | nil => rfl
  | cons entry rest inductionHypothesis =>
    have submits := simulation.submits_submit entry
    exact (inductionHypothesis (simulation.submit entry)).trans submits.script

theorem reports_submits (simulation : Simulation) (entries : List ScriptEntry) :
    (entries.foldl submit simulation).reports = simulation.reports := by
  induction entries generalizing simulation with
  | nil => rfl
  | cons entry rest inductionHypothesis =>
    have submits := simulation.submits_submit entry
    exact (inductionHypothesis (simulation.submit entry)).trans submits.reports

/-- Submissions do not take time. -/
theorem tick_of_mem_submissions {simulation : Simulation} {entries : List ScriptEntry}
    {submission : Submission} (member : submission ∈ simulation.submissions entries) :
    submission.tick = simulation.host.machine.state.tick := by
  induction entries generalizing simulation with
  | nil => exact absurd member List.not_mem_nil
  | cons entry rest inductionHypothesis =>
    rcases List.mem_cons.mp member with rfl | later
    · rfl
    · rw [inductionHypothesis later, (simulation.submits_submit entry).machine]

/-- The run of the host of a simulation after some submissions. -/
def hostRun (simulation : Simulation) (submissions : List Submission) : HostRun where
  host := simulation.host
  accepted := submissions.filterMap Submission.acceptance?
  reports := simulation.reports.reverse

theorem commands_hostRun (simulation : Simulation) (submissions : List Submission) :
    (simulation.hostRun submissions).commands = submissions.filterMap Submission.command? := by
  rw [HostRun.commands, hostRun, List.map_filterMap]
  refine List.filterMap_congr fun submission _ => ?_
  rw [Submission.acceptance?, Submission.command?]
  cases submission.answer <;> rfl

/-- To the host a submission is a call. -/
theorem Submits.hostRun {simulation next : Simulation} {entry : ScriptEntry}
    {submission : Submission} (submits : simulation.Submits entry next submission)
    (submissions : List Submission) :
    next.hostRun (submissions ++ [submission]) =
      (simulation.hostRun submissions).extend
        (.submit entry.client (simulation.request entry)) := by
  rw [HostRun.extend, Host.submit, Simulation.hostRun, Simulation.hostRun, List.filterMap_append]
  cases submits with
  | rejects submitted =>
    rw [submitted, Except.map]
    simp [Submission.acceptance?, Except.toOption]
  | accepts submitted =>
    rw [submitted]
    rfl

/-! ## The invariant -/

open Submission (countOf)

/-- What a simulation that began at tick zero knows of its submissions. -/
structure Attended (lead : UInt64) (simulation : Simulation) (submissions : List Submission) :
    Prop where
  delivering : (simulation.hostRun submissions).Delivering 0 lead
  /-- The commands of each client are counted. -/
  counted : ∀ client,
    ((simulation.clientSeqs.get? client).getD 0).toNat = countOf client submissions
  /-- The relay has seen no greater count. -/
  noted : ∀ client last, simulation.host.relay.lastClientSeq.get? client = some last →
    last.toNat ≤ countOf client submissions
  rejected : simulation.rejections.reverse = submissions.filterMap Submission.rejection?
  answered : ∀ submission ∈ submissions, submission.Answered

namespace Attended

variable {lead : UInt64} {simulation next : Simulation} {submissions : List Submission}
  {entry : ScriptEntry} {submission : Submission}

/-- The next count of a client. -/
theorem toNat_request (attended : Attended lead simulation submissions)
    (few : countOf entry.client submissions + 1 < 2 ^ 32) :
    (simulation.request entry).clientSeq.toNat = countOf entry.client submissions + 1 := by
  rw [request, UInt32.toNat_add, attended.counted entry.client]
  exact Nat.mod_eq_of_lt few

theorem counted_submit (attended : Attended lead simulation submissions)
    (submits : simulation.Submits entry next submission)
    (few : countOf entry.client submissions + 1 < 2 ^ 32) (client : ClientId) :
    ((next.clientSeqs.get? client).getD 0).toNat =
      countOf client (submissions ++ [submission]) := by
  rw [submits.clientSeqs, countedSeqs, Table.get?_insert, Submission.countOf_concat,
    submits.submitted]
  by_cases same : client = entry.client
  · subst same
    rw [if_pos rfl, if_pos rfl]
    exact attended.toNat_request few
  · rw [if_neg same, if_neg (Ne.symm same)]
    exact attended.counted client

/-- The relay does not find fault with the next count, which is greater than all before. -/
theorem answered_submit (attended : Attended lead simulation submissions)
    (submits : simulation.Submits entry next submission)
    (few : countOf entry.client submissions + 1 < 2 ^ 32) : submission.Answered := by
  have grown (last : UInt32)
      (noted : simulation.host.relay.lastClientSeq.get? entry.client = some last) :
      last < (simulation.request entry).clientSeq := by
    rw [UInt32.lt_iff_toNat_lt, attended.toNat_request few]
    exact Nat.lt_succ_of_le (attended.noted entry.client last noted)
  cases submits with
  | rejects submitted =>
    refine ⟨nofun, fun last got same => ?_⟩
    obtain rfl := Except.error.inj same
    exact Relay.submit_ne_sequenceRegression _ grown last got submitted
  | accepts submitted =>
    obtain ⟨client, action, _⟩ := Relay.submit_notes submitted
    refine ⟨fun _ same => ?_, nofun⟩
    obtain rfl := Except.ok.inj same
    exact ⟨client, action⟩

theorem noted_submit (attended : Attended lead simulation submissions)
    (submits : simulation.Submits entry next submission)
    (few : countOf entry.client submissions + 1 < 2 ^ 32) (client : ClientId) (last : UInt32)
    (noted : next.host.relay.lastClientSeq.get? client = some last) :
    last.toNat ≤ countOf client (submissions ++ [submission]) := by
  have earlier (noted : simulation.host.relay.lastClientSeq.get? client = some last) :
      last.toNat ≤ countOf client (submissions ++ [submission]) := by
    rw [Submission.countOf_concat]
    exact Nat.le_add_right_of_le (attended.noted client last noted)
  have counted := attended.counted_submit submits few client
  rw [submits.clientSeqs, countedSeqs, Table.get?_insert] at counted
  cases submits with
  | rejects submitted => exact earlier noted
  | accepts submitted =>
    obtain ⟨_, _, notes⟩ := Relay.submit_notes submitted
    rw [notes, Table.get?_insert] at noted
    by_cases here : client = entry.client
    · rw [if_pos here] at noted
      rw [if_pos here, noted] at counted
      exact Nat.le_of_eq counted
    · rw [if_neg here] at noted
      exact earlier noted

theorem rejected_submit (attended : Attended lead simulation submissions)
    (submits : simulation.Submits entry next submission) :
    next.rejections.reverse =
      (submissions ++ [submission]).filterMap Submission.rejection? := by
  rw [List.filterMap_append, ← attended.rejected]
  cases submits with
  | rejects submitted => exact List.reverse_cons
  | accepts submitted => exact (List.append_nil _).symm

/-- **An entry of the script is submitted.** -/
theorem submit (attended : Attended lead simulation submissions)
    (submits : simulation.Submits entry next submission) (ahead : 1 ≤ lead.toNat)
    (room : simulation.reports.length + lead.toNat < 2 ^ 64)
    (total : submissions.length + 1 < 2 ^ 64)
    (few : countOf entry.client submissions + 1 < 2 ^ 32) :
    Attended lead next (submissions ++ [submission]) where
  delivering := by
    rw [submits.hostRun]
    refine (attended.delivering.extend _ ahead ?_ ?_).1
    · exact Nat.lt_of_le_of_lt (Nat.succ_le_succ (List.length_filterMap_le _ _)) total
    · rw [hostRun, List.length_reverse, Nat.zero_add]
      exact room
  counted := attended.counted_submit submits few
  noted := attended.noted_submit submits few
  rejected := attended.rejected_submit submits
  answered := List.forall_mem_append.mpr ⟨attended.answered,
    List.forall_mem_singleton.mpr (attended.answered_submit submits few)⟩

/-- **Entries of the script are submitted**, one after the other. -/
theorem submits (attended : Attended lead simulation submissions) (ahead : 1 ≤ lead.toNat)
    (room : simulation.reports.length + lead.toNat < 2 ^ 64) {entries : List ScriptEntry}
    (total : submissions.length + entries.length < 2 ^ 64)
    (few : ∀ client,
      countOf client submissions + entries.countP (·.client = client) < 2 ^ 32) :
    Attended lead (entries.foldl Simulation.submit simulation)
      (submissions ++ simulation.submissions entries) := by
  induction entries generalizing simulation submissions with
  | nil =>
    rw [Simulation.submissions, List.append_nil]
    exact attended
  | cons entry rest inductionHypothesis =>
    rw [List.length_cons] at total
    have first := few entry.client
    rw [List.countP_cons, if_pos (decide_eq_true rfl)] at first
    have submits := simulation.submits_submit entry
    have next := attended.submit submits ahead room (by omega) (by omega)
    rw [Simulation.submissions, List.append_cons]
    refine inductionHypothesis next ?_ ?_ fun client => ?_
    · rw [submits.reports]
      exact room
    · rw [List.length_append, List.length_singleton]
      omega
    · have others := few client
      rw [List.countP_cons] at others
      rw [Submission.countOf_concat, submits.submitted]
      by_cases same : entry.client = client
      · rw [if_pos (decide_eq_true same)] at others
        rw [if_pos same]
        omega
      · rw [if_neg same]
        omega

/-- **The host steps.** -/
theorem step (attended : Attended lead simulation submissions) (ahead : 1 ≤ lead.toNat)
    (room : simulation.reports.length + 1 + lead.toNat < 2 ^ 64)
    (total : submissions.length + 1 < 2 ^ 64) (trace : List TraceEntry) :
    Attended lead
      { simulation with
        host := simulation.host.step.2.2
        reports := simulation.host.step.1 :: simulation.reports
        trace }
      submissions where
  delivering := by
    have extended := (attended.delivering.extend .step ahead
      (Nat.lt_of_le_of_lt (Nat.succ_le_succ (List.length_filterMap_le _ _)) total) (by
        rw [hostRun, List.length_reverse, Nat.zero_add]
        exact room)).1
    rw [hostRun, List.reverse_cons]
    exact extended
  counted := attended.counted
  noted client last noted := by
    refine attended.noted client last (Eq.trans ?_ noted)
    exact congrArg (·.get? client) (Relay.lastClientSeq_takeForTick _ _).symm
  rejected := attended.rejected
  answered := attended.answered

end Attended
end Simulation
end Lockstep
