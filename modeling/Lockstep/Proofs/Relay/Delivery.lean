import Mathlib.Data.List.Basic
import Lockstep.Proofs.Command.Order
import Lockstep.Proofs.Relay.Run
import Lockstep.Proofs.Table.Keys

/-!
# Delivery of commands

Every command that a host accepts is applied once, in the tick to which it was pinned, and in the
order in which it was accepted (`Host.run_delivers`). This holds whatever clients do between the
ticks.

The invariant (`HostRun.Delivering`) compares the queue and the reports with the list of all
commands that were accepted. Because ticks never go back, the commands of that list are in the order
of their ticks. So the ones up to now are a first part of it, which is what the reports have, and
the others are the rest, which is what is pending.
-/

set_option autoImplicit false

namespace Lockstep

/-! ## Lists in order -/

theorem filter_concat_pos {α : Type} {keep : α → Bool} {list : List α} {last : α}
    (kept : keep last = true) : (list ++ [last]).filter keep = list.filter keep ++ [last] := by
  rw [List.filter_append, List.filter_cons_of_pos kept]
  rfl

theorem filter_concat_neg {α : Type} {keep : α → Bool} {list : List α} {last : α}
    (dropped : ¬ keep last = true) : (list ++ [last]).filter keep = list.filter keep := by
  rw [List.filter_append, List.filter_cons_of_neg dropped]
  exact List.append_nil _

/-- When nothing of the second kind comes before anything of the first kind, the two kinds one
after the other are what was in the list. -/
theorem filter_append_filter {α : Type} {first second : α → Bool} {list : List α}
    (ordered : list.Pairwise fun earlier later => second earlier = true → ¬ first later = true)
    (apart : ∀ value ∈ list, second value = true → ¬ first value = true) :
    list.filter first ++ list.filter second =
      list.filter fun value => first value || second value := by
  induction list with
  | nil => rfl
  | cons head rest inductionHypothesis =>
    obtain ⟨later, ordered⟩ := List.pairwise_cons.mp ordered
    have others := inductionHypothesis ordered fun value member =>
      apart value (List.mem_cons_of_mem head member)
    by_cases isFirst : first head = true
    · have notSecond : ¬ second head = true := fun isSecond =>
        apart head List.mem_cons_self isSecond isFirst
      rw [List.filter_cons_of_pos isFirst, List.filter_cons_of_neg notSecond,
        List.filter_cons_of_pos (by rw [isFirst, Bool.true_or]), List.cons_append, others]
    · by_cases isSecond : second head = true
      · have none : rest.filter first = [] :=
          List.filter_eq_nil_iff.mpr fun value member => later value member isSecond
        rw [none, List.nil_append] at others
        rw [List.filter_cons_of_neg isFirst, List.filter_cons_of_pos isSecond, none,
          List.filter_cons_of_pos (by rw [isSecond, Bool.or_true]), List.nil_append, others]
      · rw [List.filter_cons_of_neg isFirst, List.filter_cons_of_neg isSecond,
          List.filter_cons_of_neg (by simp [isFirst, isSecond]), others]

/-- The batches of ascending ticks are the commands, if these are in the order of their ticks. -/
theorem flatMap_batches {ticks : List UInt64} {commands : List SequencedCommand}
    (ascending : ticks.Pairwise fun first second => first < second)
    (ordered : commands.Pairwise fun first second => first.tick ≤ second.tick)
    (covered : ∀ command ∈ commands, command.tick ∈ ticks) :
    (ticks.flatMap fun tick => commands.filter (·.tick = tick)) = commands := by
  induction ticks generalizing commands with
  | nil =>
    exact (List.eq_nil_iff_forall_not_mem.mpr fun command member =>
      absurd (covered command member) List.not_mem_nil).symm
  | cons tick rest inductionHypothesis =>
    obtain ⟨earliest, ascending⟩ := List.pairwise_cons.mp ascending
    -- The commands of the first tick come first, and the others belong to the rest of the ticks.
    have later := inductionHypothesis ascending (ordered.filter (tick < ·.tick)) (by
      intro command member
      obtain ⟨member, after⟩ := List.mem_filter.mp member
      obtain same | found := List.mem_cons.mp (covered command member)
      · rw [same, decide_eq_true_eq] at after
        exact absurd after (UInt64.lt_irrefl _)
      · exact found)
    have same : (rest.flatMap fun other => commands.filter (·.tick = other)) =
        rest.flatMap fun other => (commands.filter (tick < ·.tick)).filter (·.tick = other) := by
      refine List.flatMap_congr fun other member => ?_
      rw [List.filter_filter]
      refine List.filter_congr fun command _ => ?_
      by_cases here : command.tick = other
      · simp [here, earliest other member]
      · simp [here]
    rw [List.flatMap_cons, same, later, filter_append_filter]
    · refine List.filter_eq_self.mpr fun command member => ?_
      obtain here | found := List.mem_cons.mp (covered command member)
      · rw [here, decide_eq_true rfl, Bool.true_or]
      · rw [decide_eq_true (earliest command.tick found), Bool.or_true]
    · refine ordered.imp fun {first second} before after here => ?_
      rw [decide_eq_true_eq] at after here
      rw [here] at before
      exact absurd (UInt64.lt_of_lt_of_le after before) (UInt64.lt_irrefl _)
    · intro command _ after here
      rw [decide_eq_true_eq] at after here
      rw [here] at after
      exact absurd after (UInt64.lt_irrefl _)

/-- A table that has the batch of every tick has all commands. -/
theorem flatten_batches {pending : Table UInt64 (List SequencedCommand)}
    {commands : List SequencedCommand}
    (ordered : commands.Pairwise fun first second => first.tick ≤ second.tick)
    (batches : ∀ tick, (pending.get? tick).getD [] = commands.filter (·.tick = tick)) :
    pending.values.flatten = commands := by
  have values : pending.values = pending.keys.map fun tick => commands.filter (·.tick = tick) := by
    rw [Table.values, Table.keys, List.map_map]
    refine List.map_congr_left fun entry member => ?_
    have held : pending.get? entry.1 = some entry.2 := Table.mem_entries_iff.mp member
    rw [Function.comp_apply, ← batches, held]
    rfl
  rw [values, ← List.flatMap_def]
  refine flatMap_batches (pending.keys_ascending.imp fun before => ?_) ordered ?_
  · exact Std.compare_eq_lt.mp before
  · intro command member
    refine Table.mem_keys.mpr (Decidable.by_contra fun absent => ?_)
    have none := batches command.tick
    rw [Table.get?_of_not_contains absent] at none
    have present : command ∈ commands.filter (·.tick = command.tick) :=
      List.mem_filter.mpr ⟨member, decide_eq_true rfl⟩
    rw [← none] at present
    exact absurd present List.not_mem_nil

/-! ## Taking what is due -/

/-- When only one key passes, what is left of a table is the value of that key. -/
theorem values_filter_key {pending : Table UInt64 (List SequencedCommand)} {keep : UInt64 → Bool}
    {key : UInt64} (passes : keep key = true)
    (only : ∀ other batch, pending.get? other = some batch → keep other = true → other = key) :
    (pending.filter fun other _ => keep other).values = (pending.get? key).toList := by
  have same : (pending.filter fun other _ => keep other) =
      match pending.get? key with
      | none => Table.empty
      | some batch => Table.empty.insert key batch := by
    refine Table.ext_get? fun other => ?_
    rw [Table.get?_filter]
    cases held : pending.get? other with
    | none =>
      rw [Option.filter_none]
      cases due : pending.get? key with
      | none => rfl
      | some batch =>
        refine Eq.symm (Table.get?_insert_of_ne Table.empty ?_ batch)
        intro here
        rw [here, due] at held
        exact absurd held (by simp)
    | some batch =>
      by_cases kept : keep other = true
      · have here := only other batch held kept
        subst here
        rw [Option.filter_some, if_pos kept, held]
        exact (Table.get?_insert_self ..).symm
      · rw [Option.filter_some, if_neg kept]
        cases due : pending.get? key with
        | none => rfl
        | some first =>
          refine Eq.symm (Table.get?_insert_of_ne Table.empty ?_ first)
          intro here
          exact kept (here ▸ passes)
  rw [same]
  cases pending.get? key <;> rfl

/-- A batch that is not kept is empty. -/
theorem getD_filter {pending : Table UInt64 (List SequencedCommand)} {keep : UInt64 → Bool}
    {tick : UInt64} :
    ((pending.filter fun pinned _ => keep pinned).get? tick).getD [] =
      if keep tick = true then (pending.get? tick).getD [] else [] := by
  rw [Table.get?_filter]
  cases pending.get? tick with
  | none =>
    rw [Option.filter_none]
    split <;> rfl
  | some batch =>
    rw [Option.filter_some]
    split <;> rfl

/-! ## Commands by their ticks -/

namespace SequencedCommand

variable {commands : List SequencedCommand} {now tick : UInt64}

/-- What is later than a later tick is later than an earlier one. -/
theorem filter_later (before : now ≤ tick) :
    commands.filter (tick < ·.tick) = (commands.filter (now < ·.tick)).filter (tick < ·.tick) := by
  rw [List.filter_filter]
  refine List.filter_congr fun command _ => ?_
  by_cases after : tick < command.tick
  · rw [decide_eq_true after, decide_eq_true (UInt64.lt_of_le_of_lt before after)]
    rfl
  · rw [decide_eq_false after]
    rfl

/-- The batch of a later tick is among what is later. -/
theorem filter_of_later (later : now < tick) :
    (commands.filter (now < ·.tick)).filter (·.tick = tick) = commands.filter (·.tick = tick) := by
  rw [List.filter_filter]
  refine List.filter_congr fun command _ => ?_
  by_cases here : command.tick = tick
  · rw [decide_eq_true here, decide_eq_true (here ▸ later)]
    rfl
  · rw [decide_eq_false here]
    rfl

/-- The batch of another tick is not. -/
theorem filter_of_not_later (past : ¬ now < tick) :
    (commands.filter (now < ·.tick)).filter (·.tick = tick) = [] := by
  rw [List.filter_filter, List.filter_eq_nil_iff]
  intro command _ both
  obtain ⟨here, later⟩ := (Bool.and_eq_true _ _).mp both
  exact past (of_decide_eq_true here ▸ of_decide_eq_true later)

/-- The commands up to now and those of the next tick are the commands up to the next tick. -/
theorem filter_up_to_next (next : (now + 1).toNat = now.toNat + 1)
    (ordered : commands.Pairwise fun first second => first.tick ≤ second.tick) :
    commands.filter (·.tick ≤ now) ++ commands.filter (·.tick = now + 1) =
      commands.filter (·.tick ≤ now + 1) := by
  rw [filter_append_filter]
  · refine List.filter_congr fun command _ => ?_
    rw [← Bool.decide_or]
    refine decide_eq_decide.mpr ?_
    rw [UInt64.le_iff_toNat_le, UInt64.le_iff_toNat_le, ← UInt64.toNat_inj]
    omega
  · refine ordered.imp fun {earlier later} before here past => ?_
    rw [of_decide_eq_true here, UInt64.le_iff_toNat_le] at before
    have bound := UInt64.le_iff_toNat_le.mp (of_decide_eq_true past)
    omega
  · intro command _ here past
    have bound := UInt64.le_iff_toNat_le.mp (of_decide_eq_true past)
    rw [of_decide_eq_true here] at bound
    omega

/-- What is later than now is of the next tick or later than that, in this order. -/
theorem filter_from_next (next : (now + 1).toNat = now.toNat + 1)
    (ordered : commands.Pairwise fun first second => first.tick ≤ second.tick) :
    commands.filter (·.tick = now + 1) ++ commands.filter (now + 1 < ·.tick) =
      commands.filter (now < ·.tick) := by
  rw [filter_append_filter]
  · refine List.filter_congr fun command _ => ?_
    rw [← Bool.decide_or]
    refine decide_eq_decide.mpr ?_
    rw [UInt64.lt_iff_toNat_lt, UInt64.lt_iff_toNat_lt, ← UInt64.toNat_inj]
    omega
  · refine ordered.imp fun {earlier later} before after here => ?_
    rw [of_decide_eq_true here] at before
    exact absurd (UInt64.lt_of_lt_of_le (of_decide_eq_true after) before) (UInt64.lt_irrefl _)
  · intro command _ after here
    rw [of_decide_eq_true here] at after
    exact absurd (of_decide_eq_true after) (UInt64.lt_irrefl _)

end SequencedCommand

/-! ## The invariant -/

namespace HostRun

/-- The commands that are pinned to a later tick than the present one. -/
def waiting (run : HostRun) : List SequencedCommand :=
  run.commands.filter (run.tick < ·.tick)

/-- Where all accepted commands of a run are, when it began at a tick and has a lead. -/
structure Delivering (first : Nat) (lead : UInt64) (run : HostRun) : Prop where
  sameLead : run.host.relay.lead = lead
  nextSeq : run.host.relay.nextSeq.toNat = run.accepted.length
  seqs : run.commands.map (fun command => command.seq.toNat) =
    List.range' 1 run.accepted.length
  now : run.tick.toNat = first + run.reports.length
  pinned : ∀ acceptance ∈ run.accepted,
    acceptance.command.tick.toNat = acceptance.tick.toNat + lead.toNat ∧
      acceptance.tick.toNat ≤ run.tick.toNat
  /-- Ticks do not go back, so later commands are pinned to later ticks. -/
  ordered : run.commands.Pairwise fun first second => first.tick ≤ second.tick
  /-- The queue has the batches of what is waiting. -/
  batches : ∀ tick, (run.host.relay.pending.get? tick).getD [] =
    run.waiting.filter (·.tick = tick)
  /-- Nothing is kept for a tick that is over. -/
  ahead : ∀ tick batch, run.host.relay.pending.get? tick = some batch → run.tick < tick
  numbered : run.reports.map (fun report => report.tick.toNat) =
    List.range' (first + 1) run.reports.length
  served : ∀ report ∈ run.reports, report.commands = run.commands.filter (·.tick = report.tick)
  delivered : run.reports.flatMap TickReport.commands = run.commands.filter (·.tick ≤ run.tick)

namespace Delivering

variable {first : Nat} {lead : UInt64} {run : HostRun}

theorem start (machine : Machine) (lead seed : UInt64) :
    Delivering machine.state.tick.toNat (max lead 1) ⟨⟨machine, Relay.new lead, seed⟩, [], []⟩ where
  sameLead := rfl
  nextSeq := rfl
  seqs := rfl
  now := rfl
  pinned _ member := absurd member List.not_mem_nil
  ordered := .nil
  batches _ := rfl
  ahead _ _ held := absurd held (by simp [Relay.new])
  numbered := rfl
  served _ member := absurd member List.not_mem_nil
  delivered := rfl

/-- The machine and the queue are as they were. -/
theorem idle (delivering : Delivering first lead run) {host : Host}
    (machine : host.machine = run.host.machine)
    (same : run.host.relay.SameQueue host.relay) :
    Delivering first lead { run with host } := by
  have tick : ({ run with host } : HostRun).tick = run.tick := by
    rw [HostRun.tick, machine]
    rfl
  constructor
  case sameLead => exact same.lead.trans delivering.sameLead
  case nextSeq =>
    show host.relay.nextSeq.toNat = _
    rw [same.nextSeq]
    exact delivering.nextSeq
  case seqs => exact delivering.seqs
  case now =>
    rw [tick]
    exact delivering.now
  case pinned =>
    rw [tick]
    exact delivering.pinned
  case ordered => exact delivering.ordered
  case batches =>
    intro due
    show (host.relay.pending.get? due).getD [] = _
    rw [same.pending, delivering.batches, waiting, waiting, tick]
    rfl
  case ahead =>
    intro due batch held
    rw [tick]
    exact delivering.ahead due batch (same.pending ▸ held)
  case numbered => exact delivering.numbered
  case served => exact delivering.served
  case delivered =>
    rw [tick]
    exact delivering.delivered

/-- Reports are of ticks up to the present one. -/
theorem reported (delivering : Delivering first lead run) {report : TickReport}
    (member : report ∈ run.reports) : report.tick.toNat ≤ run.tick.toNat := by
  have listed : report.tick.toNat ∈ run.reports.map fun report => report.tick.toNat :=
    List.mem_map.mpr ⟨report, member, rfl⟩
  rw [delivering.numbered, List.mem_range'_1] at listed
  have now := delivering.now
  omega

/-- A command is accepted. -/
theorem accept (delivering : Delivering first lead run) {command : SequencedCommand} {host : Host}
    (machine : host.machine = run.host.machine)
    (accepts : run.host.relay.Accepts run.host.machine command host.relay)
    (ahead : 1 ≤ lead.toNat) (room : run.tick.toNat + lead.toNat < 2 ^ 64)
    (few : run.accepted.length + 1 < 2 ^ 64) :
    Delivering first lead (run.accept command host) := by
  have tick : (run.accept command host).tick = run.tick := by
    rw [HostRun.tick, HostRun.accept, machine]
    rfl
  have commands : (run.accept command host).commands = run.commands ++ [command] :=
    List.map_append
  have number : command.seq.toNat = run.accepted.length + 1 := by
    rw [accepts.seq, ← delivering.nextSeq]
    exact toNat_next (delivering.nextSeq ▸ few)
  have due : command.tick.toNat = run.tick.toNat + lead.toNat := by
    rw [accepts.tick, delivering.sameLead, UInt64.toNat_add]
    exact Nat.mod_eq_of_lt room
  have later : run.tick < command.tick := UInt64.lt_iff_toNat_lt.mpr (by omega)
  have waiting : (run.accept command host).waiting = run.waiting ++ [command] := by
    rw [HostRun.waiting, tick, commands, filter_concat_pos (by exact decide_eq_true later)]
    rfl
  constructor
  case sameLead => exact accepts.lead.trans delivering.sameLead
  case nextSeq =>
    show host.relay.nextSeq.toNat = (run.accepted ++ [_]).length
    rw [accepts.nextSeq, ← accepts.seq, number, List.length_append]
    rfl
  case seqs =>
    rw [commands, List.map_append, delivering.seqs]
    show _ ++ [command.seq.toNat] = _
    rw [number, HostRun.accept, List.length_append]
    show _ = List.range' 1 (run.accepted.length + 1)
    rw [List.range'_concat, Nat.one_mul, Nat.add_comm]
  case now =>
    rw [tick]
    exact delivering.now
  case pinned =>
    intro acceptance member
    rw [tick]
    obtain old | single := List.mem_append.mp member
    · exact delivering.pinned acceptance old
    · rw [List.mem_singleton.mp single]
      exact ⟨due, Nat.le_refl _⟩
  case ordered =>
    rw [commands, List.pairwise_append]
    refine ⟨delivering.ordered, List.pairwise_singleton _ _, ?_⟩
    intro earlier member latest single
    obtain ⟨acceptance, found, rfl⟩ := List.mem_map.mp member
    obtain ⟨pinned, before⟩ := delivering.pinned acceptance found
    rw [List.mem_singleton.mp single, UInt64.le_iff_toNat_le]
    omega
  case batches =>
    intro other
    show (host.relay.pending.get? other).getD [] = _
    rw [accepts.pending, Table.get?_insert, waiting]
    by_cases here : other = command.tick
    · rw [if_pos here, Option.getD_some, here, delivering.batches,
        filter_concat_pos (by exact decide_eq_true rfl)]
    · rw [if_neg here, delivering.batches, filter_concat_neg]
      exact fun same => here (of_decide_eq_true same).symm
  case ahead =>
    intro other batch held
    rw [tick]
    rw [HostRun.accept, accepts.pending] at held
    obtain ⟨here, _⟩ | ⟨_, earlier⟩ := Table.get?_insert_eq_some_iff.mp held
    · exact here ▸ later
    · exact delivering.ahead other batch earlier
  case numbered => exact delivering.numbered
  case served =>
    intro report member
    have past := delivering.reported member
    rw [delivering.served report member, commands, filter_concat_neg]
    intro here
    rw [of_decide_eq_true here] at due
    omega
  case delivered =>
    rw [tick, commands, filter_concat_neg]
    · exact delivering.delivered
    · intro past
      exact absurd (UInt64.lt_of_lt_of_le later (of_decide_eq_true past)) (UInt64.lt_irrefl _)

/-- Accepted commands are in the order of their numbers. -/
theorem inSequence (delivering : Delivering first lead run) :
    run.commands.Pairwise fun first second => first.seq ≤ second.seq := by
  have ascending : (run.commands.map fun command => command.seq.toNat).Pairwise (· < ·) := by
    rw [delivering.seqs]
    exact List.pairwise_lt_range'
  exact (List.pairwise_map.mp ascending).imp fun before =>
    UInt64.le_iff_toNat_le.mpr (Nat.le_of_lt before)

/-- What is taken for the next tick is what is pinned to it. -/
theorem taken (delivering : Delivering first lead run)
    (room : run.tick.toNat + 2 < 2 ^ 64) :
    let following := run.tick + 1 + 1
    (run.host.relay.pending.filter fun pinned _ => pinned < following).values.flatten =
      run.commands.filter (·.tick = run.tick + 1) := by
  intro following
  have next : (run.tick + 1).toNat = run.tick.toNat + 1 := toNat_next (Nat.lt_of_succ_lt room)
  have afterNext : following.toNat = (run.tick + 1).toNat + 1 := toNat_next (by omega)
  have batch : (run.host.relay.pending.filter fun pinned _ => pinned < following).values =
      (run.host.relay.pending.get? (run.tick + 1)).toList := by
    refine values_filter_key (decide_eq_true ?_) fun other batch held due => ?_
    · rw [UInt64.lt_iff_toNat_lt]
      omega
    · have later := UInt64.lt_iff_toNat_lt.mp (delivering.ahead other batch held)
      have before := UInt64.lt_iff_toNat_lt.mp (of_decide_eq_true due)
      exact UInt64.toNat_inj.mp (by omega)
  have later : run.tick < run.tick + 1 := UInt64.lt_iff_toNat_lt.mpr (by omega)
  rw [batch, ← SequencedCommand.filter_of_later later]
  refine Eq.trans ?_ (delivering.batches (run.tick + 1))
  cases run.host.relay.pending.get? (run.tick + 1) with
  | none => rfl
  | some commands => exact List.append_nil commands

/-- What is pinned to a tick is in the order of its numbers. -/
theorem sort_due (delivering : Delivering first lead run) (tick : UInt64) :
    SequencedCommand.sort (run.commands.filter (·.tick = tick)) =
      run.commands.filter (·.tick = tick) :=
  SequencedCommand.sort_of_ordered (delivering.inSequence.filter _)

theorem takes (delivering : Delivering first lead run) (room : run.tick.toNat + 2 < 2 ^ 64) :
    (run.host.relay.takeForTick (run.tick + 1)).1 = run.commands.filter (·.tick = run.tick + 1) ∧
      Relay.SameQueue
        { run.host.relay with pending := run.host.relay.pending.filter fun pinned _ =>
            run.tick + 1 + 1 ≤ pinned }
        (run.host.relay.takeForTick (run.tick + 1)).2.2 := by
  have pinned : ∀ command ∈ run.commands.filter (·.tick = run.tick + 1),
      command.tick = run.tick + 1 := fun command member =>
    of_decide_eq_true (List.mem_filter.mp member).2
  obtain ⟨commands, queue⟩ := run.host.relay.takeForTick_takes (delivering.taken room) pinned
  exact ⟨commands.trans (delivering.sort_due _), queue⟩

/-- The host steps to the next tick. -/
theorem step (delivering : Delivering first lead run) (room : run.tick.toNat + 2 < 2 ^ 64) :
    Delivering first lead (run.extend .step) := by
  have next : (run.tick + 1).toNat = run.tick.toNat + 1 := toNat_next (Nat.lt_of_succ_lt room)
  have afterNext : (run.tick + 1 + 1).toNat = (run.tick + 1).toNat + 1 := toNat_next (by omega)
  have tick : (run.extend .step).tick = run.tick + 1 := rfl
  obtain ⟨commands, queue⟩ := delivering.takes room
  have pending : (run.extend .step).host.relay.pending = _ := queue.pending
  have given : run.host.step.1.commands = run.commands.filter (·.tick = run.tick + 1) := by
    show SequencedCommand.sort (run.host.relay.takeForTick (run.tick + 1)).1 = _
    rw [commands, delivering.sort_due]
  have onward : run.tick ≤ run.tick + 1 := UInt64.le_iff_toNat_le.mpr (by omega)
  have waiting : (run.extend .step).waiting = run.waiting.filter (run.tick + 1 < ·.tick) :=
    SequencedCommand.filter_later onward
  constructor
  case sameLead => exact queue.lead.trans delivering.sameLead
  case nextSeq => exact (congrArg UInt64.toNat queue.nextSeq).trans delivering.nextSeq
  case seqs => exact delivering.seqs
  case now =>
    rw [tick, next, delivering.now]
    show _ = first + (run.reports ++ [_]).length
    rw [List.length_append]
    rfl
  case pinned =>
    intro acceptance member
    obtain ⟨exact, before⟩ := delivering.pinned acceptance member
    rw [tick]
    exact ⟨exact, by omega⟩
  case ordered => exact delivering.ordered
  case batches =>
    intro other
    rw [pending, getD_filter, waiting]
    by_cases after : run.tick + 1 + 1 ≤ other
    · have later := UInt64.le_iff_toNat_le.mp after
      rw [if_pos (decide_eq_true after), delivering.batches, SequencedCommand.filter_of_later]
      exact UInt64.lt_iff_toNat_lt.mpr (by omega)
    · rw [if_neg fun kept => after (of_decide_eq_true kept)]
      refine (SequencedCommand.filter_of_not_later fun later => after ?_).symm
      have beyond : (run.tick + 1).toNat < other.toNat := UInt64.lt_iff_toNat_lt.mp later
      exact UInt64.le_iff_toNat_le.mpr (by omega)
  case ahead =>
    intro other batch held
    rw [pending, Table.get?_filter, Option.filter_eq_some_iff] at held
    have after := UInt64.le_iff_toNat_le.mp (of_decide_eq_true held.2)
    rw [tick, UInt64.lt_iff_toNat_lt]
    omega
  case numbered =>
    show (run.reports ++ [run.host.step.1]).map _ = List.range' _ (run.reports ++ [_]).length
    rw [List.map_append, delivering.numbered, List.length_append]
    show _ ++ [(run.tick + 1).toNat] = List.range' (first + 1) (run.reports.length + 1)
    rw [List.range'_concat, next, delivering.now, Nat.one_mul, Nat.add_right_comm]
  case served =>
    intro report member
    obtain old | single := List.mem_append.mp member
    · exact delivering.served report old
    · rw [List.mem_singleton.mp single]
      exact given
  case delivered =>
    show (run.reports ++ [run.host.step.1]).flatMap _ = run.commands.filter _
    rw [List.flatMap_append, delivering.delivered, List.flatMap_singleton, given]
    exact SequencedCommand.filter_up_to_next next delivering.ordered

end Delivering
end HostRun

/-! ## Runs -/

/-- Whether a call is a step. -/
def HostCall.isStep : HostCall → Bool
  | .step => true
  | _ => false

/-- How many of some calls are steps. -/
def HostCall.steps (calls : List HostCall) : Nat := calls.countP HostCall.isStep

namespace HostRun

variable {first : Nat} {lead : UInt64} {run : HostRun}

/-- Whatever is called, the invariant is kept, there is one more report if the call is a step, and
at most one more command is accepted. -/
theorem Delivering.extend (delivering : Delivering first lead run) (call : HostCall)
    (ahead : 1 ≤ lead.toNat) (few : run.accepted.length + 1 < 2 ^ 64)
    (room : first + run.reports.length + HostCall.steps [call] + lead.toNat < 2 ^ 64) :
    Delivering first lead (run.extend call) ∧
      (run.extend call).reports.length = run.reports.length + HostCall.steps [call] ∧
      (run.extend call).accepted.length ≤ run.accepted.length + 1 := by
  rw [← delivering.now] at room
  have added (command : SequencedCommand) (host : Host) :
      (run.accept command host).accepted.length = run.accepted.length + 1 := by
    rw [HostRun.accept, List.length_append]
    rfl
  have extended := run.extends_extend call
  generalize run.extend call = next at extended ⊢
  cases extended with
  | rejects submitted => exact ⟨delivering, rfl, Nat.le_succ _⟩
  | accepts submitted =>
    have accepts := Relay.submit_accepts submitted
    exact ⟨delivering.accept rfl accepts ahead room few, rfl, Nat.le_of_eq (added _ _)⟩
  | dismisses disconnected =>
    have accepts := Relay.disconnect_accepts disconnected
    exact ⟨delivering.accept rfl accepts ahead room few, rfl, Nat.le_of_eq (added _ _)⟩
  | ignores disconnected =>
    exact ⟨delivering.idle rfl (Relay.disconnect_sameQueue disconnected), rfl, Nat.le_succ _⟩
  | steps =>
    refine ⟨delivering.step ?_, List.length_append, Nat.le_succ _⟩
    have one : HostCall.steps [.step] = 1 := rfl
    omega

end HostRun

namespace Host

/-- A relay pins commands at least one tick ahead. -/
theorem one_le_lead (lead : UInt64) : 1 ≤ (max lead 1).toNat := by
  show 1 ≤ (if lead ≤ 1 then 1 else lead).toNat
  by_cases least : lead ≤ 1
  · rw [if_pos least]
    exact Nat.le_refl 1
  · rw [if_neg least]
    exact UInt64.le_iff_toNat_le.mp (UInt64.le_of_lt (UInt64.not_le.mp least))

theorem run_delivering (machine : Machine) (lead seed : UInt64) (calls : List HostCall) :
    calls.length < 2 ^ 64 →
    machine.state.tick.toNat + HostCall.steps calls + (max lead 1).toNat < 2 ^ 64 →
      let run := (Host.mk machine (Relay.new lead) seed).run calls
      HostRun.Delivering machine.state.tick.toNat (max lead 1) run ∧
        run.reports.length = HostCall.steps calls ∧ run.accepted.length ≤ calls.length := by
  refine run_induction (motive := fun calls run => calls.length < 2 ^ 64 →
    machine.state.tick.toNat + HostCall.steps calls + (max lead 1).toNat < 2 ^ 64 →
      HostRun.Delivering machine.state.tick.toNat (max lead 1) run ∧
        run.reports.length = HostCall.steps calls ∧ run.accepted.length ≤ calls.length)
    (fun _ _ => ⟨.start machine lead seed, rfl, Nat.le_refl _⟩) ?_ calls
  intro calls call run inductionHypothesis few room
  have split : HostCall.steps (calls ++ [call]) = HostCall.steps calls + HostCall.steps [call] :=
    List.countP_append
  rw [List.length_append, List.length_singleton] at few ⊢
  rw [split] at room ⊢
  obtain ⟨delivering, reports, accepted⟩ := inductionHypothesis (by omega) (by omega)
  obtain ⟨extended, moreReports, moreAccepted⟩ :=
    delivering.extend call (one_le_lead lead) (by omega) (by omega)
  exact ⟨extended, by omega, by omega⟩

/-- What holds at the start and is kept by every call that finds all commands where they belong
holds after every run. -/
theorem run_induction_delivering {machine : Machine} {lead seed : UInt64}
    {motive : List HostCall → HostRun → Prop}
    (start : motive [] ⟨⟨machine, Relay.new lead, seed⟩, [], []⟩)
    (extend : ∀ calls call run,
      HostRun.Delivering machine.state.tick.toNat (max lead 1) run →
      run.tick.toNat + HostCall.steps [call] + (max lead 1).toNat < 2 ^ 64 →
      motive calls run → motive (calls ++ [call]) (run.extend call))
    (calls : List HostCall) (few : calls.length < 2 ^ 64)
    (room : machine.state.tick.toNat + HostCall.steps calls + (max lead 1).toNat < 2 ^ 64) :
    motive calls ((Host.mk machine (Relay.new lead) seed).run calls) := by
  induction calls using List.reverseRecOn with
  | nil => exact start
  | append_singleton calls call inductionHypothesis =>
    have split : HostCall.steps (calls ++ [call]) = HostCall.steps calls + HostCall.steps [call] :=
      List.countP_append
    rw [List.length_append, List.length_singleton] at few
    rw [split] at room
    obtain ⟨delivering, reports, _⟩ :=
      run_delivering machine lead seed calls (by omega) (by omega)
    rw [run_concat]
    refine extend calls call _ delivering ?_ (inductionHypothesis (by omega) (by omega))
    rw [delivering.now, reports]
    omega

/-- **Every accepted command is delivered**: the accepted commands are numbered from one in the
order of their acceptance, each is pinned to the tick that is the lead after that of its
acceptance, and every tick applies what is pinned to it. So the reports, one after the other, have
the commands up to the present tick, each once and in order, and pending are the others. -/
theorem run_delivers (machine : Machine) (lead seed : UInt64) (calls : List HostCall)
    (few : calls.length < 2 ^ 64)
    (room : machine.state.tick.toNat + HostCall.steps calls + (max lead 1).toNat < 2 ^ 64) :
    let run := (Host.mk machine (Relay.new lead) seed).run calls
    run.commands.map (fun command => command.seq.toNat) = List.range' 1 run.commands.length ∧
      (∀ acceptance ∈ run.accepted,
        acceptance.command.tick.toNat = acceptance.tick.toNat + (max lead 1).toNat) ∧
      run.reports.map (fun report => report.tick.toNat) =
        List.range' (machine.state.tick.toNat + 1) (HostCall.steps calls) ∧
      (∀ report ∈ run.reports,
        report.commands = run.commands.filter (·.tick = report.tick)) ∧
      run.reports.flatMap TickReport.commands = run.commands.filter (·.tick ≤ run.tick) ∧
      run.host.relay.pending.values.flatten = run.commands.filter (run.tick < ·.tick) := by
  intro run
  obtain ⟨delivering, reports, _⟩ := run_delivering machine lead seed calls few room
  refine ⟨?_, fun acceptance member => (delivering.pinned acceptance member).1, ?_,
    delivering.served, delivering.delivered, ?_⟩
  · rw [HostRun.commands, List.length_map]
    exact delivering.seqs
  · rw [← reports]
    exact delivering.numbered
  · exact flatten_batches (delivering.ordered.filter _) delivering.batches

/-- A client joins and is gone again before its avatar comes. Both commands are accepted, and the
first one is applied in the second tick. -/
theorem run_delivers_join :
    let calls : List HostCall :=
      [.submit ⟨1⟩ ⟨1, 0, .join "guest"⟩, .step, .disconnect ⟨1⟩, .step]
    let run := (Host.mk (Machine.new default default) (Relay.new 2) 5).run calls
    calls.length < 2 ^ 64 ∧
      (0 : UInt64).toNat + HostCall.steps calls + (max (2 : UInt64) 1).toNat < 2 ^ 64 ∧
      run.commands = [⟨1, 2, ⟨1⟩, .join "guest"⟩, ⟨2, 3, ⟨1⟩, .leave⟩] ∧
      run.reports.flatMap TickReport.commands = [⟨1, 2, ⟨1⟩, .join "guest"⟩] ∧
      run.host.relay.pending.values.flatten = [⟨2, 3, ⟨1⟩, .leave⟩] := by
  intro calls run
  have few : calls.length < 2 ^ 64 := by decide
  have room : (0 : UInt64).toNat + HostCall.steps calls + (max (2 : UInt64) 1).toNat < 2 ^ 64 := by
    decide
  have commands : run.commands = [⟨1, 2, ⟨1⟩, .join "guest"⟩, ⟨2, 3, ⟨1⟩, .leave⟩] := by
    decide +kernel
  have now : run.tick = 2 := by decide +kernel
  obtain ⟨_, _, _, _, delivered, pending⟩ :=
    run_delivers (Machine.new default default) 2 5 calls few room
  refine ⟨few, room, commands, ?_, ?_⟩
  · rw [show run.reports.flatMap TickReport.commands = _ from delivered, commands, now]
    decide
  · rw [show run.host.relay.pending.values.flatten = _ from pending, commands, now]
    decide

end Host
end Lockstep
