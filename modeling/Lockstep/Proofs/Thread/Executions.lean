import Lockstep.Proofs.Table.Keys
import Lockstep.Thread.Turn

/-!
# Instructions of a turn

`Underway.executions` lists the instructions that a turn executes, each with the thread that
executes it and with what is under way then. `Underway.Turn` says which lists can be the instructions
of a turn and what the turn comes to: each instruction is that of the thread as the one before has
left it, all but the last let the turn go on, and the turn ends with the last one, or because the
thread is not there any more, or because no instruction is left of its budget. That is how a turn
proceeds (`Underway.turn_executions`), so it executes no more instructions than its budget allows
(`Underway.Turn.length_le`).

What holds of turns is proved by induction on `Underway.Turn`. A relation that composes, and that
holds between the points before and after each instruction, holds between the beginning of a turn and
all the points that it passes through (`Underway.Turn.leads`).
-/

set_option autoImplicit false

namespace Lockstep.Underway

/-- The instructions of a turn that takes at most so many: for each of them the thread that executes
it, and what is under way. -/
def executions (library : Library) (id : ThreadId) : Nat → Underway → List (Thread × Underway)
  | 0, _ => []
  | remaining + 1, underway =>
    match underway.state.threads.get? id with
    | none => []
    | some thread =>
      match step library id thread underway with
      | (.next, after) => (thread, underway) :: executions library id remaining after
      | (.done _, _) => [(thread, underway)]

/-- A turn that may take so many instructions more, with those that it executes and with what it
comes to. -/
inductive Turn (library : Library) (budget : UInt32) (id : ThreadId) :
    Nat → Underway → List (Thread × Underway) → TurnEnd × Underway → Prop where
  | absent {remaining : Nat} {now : Underway} :
      now.state.threads.get? id = none →
        Turn library budget id remaining now [] (.removed, now)
  | exhausted {now : Underway} :
      now.state.threads.contains id = true →
        Turn library budget id 0 now []
          (.faulted (.budgetExceeded budget), (now.abort id (.budgetExceeded budget)).2)
  | ends {remaining : Nat} {now after : Underway} {thread : Thread} {ending : TurnEnd} :
      now.state.threads.get? id = some thread → step library id thread now = (.done ending, after) →
        Turn library budget id (remaining + 1) now [(thread, now)] (ending, after)
  | goesOn {remaining : Nat} {now after : Underway} {thread : Thread}
      {executed : List (Thread × Underway)} {outcome : TurnEnd × Underway} :
      now.state.threads.get? id = some thread → step library id thread now = (.next, after) →
        Turn library budget id remaining after executed outcome →
          Turn library budget id (remaining + 1) now ((thread, now) :: executed) outcome

variable {library : Library} {budget : UInt32} {underway now after : Underway} {id : ThreadId}
  {thread : Thread} {count : Nat} {executed : List (Thread × Underway)}
  {outcome : TurnEnd × Underway}

/-- **A turn executes the instructions that are listed**, and comes to what they lead to. -/
theorem turn_executions (library : Library) (budget : UInt32) (id : ThreadId) (count : Nat)
    (underway : Underway) :
    Turn library budget id count underway (executions library id count underway)
      (runInstructions library budget id count underway) := by
  induction count generalizing underway with
  | zero =>
    rw [executions, runInstructions]
    by_cases present : underway.state.threads.contains id = true
    · exact (if_pos present).symm ▸ .exhausted present
    · exact (if_neg present).symm ▸ .absent (Table.get?_of_not_contains present)
  | succ remaining inductionHypothesis =>
    cases found : underway.state.threads.get? id with
    | none =>
      simp only [executions, runInstructions, found]
      exact .absent found
    | some thread =>
      rcases stepped : step library id thread underway with ⟨flow, after⟩
      cases flow with
      | next =>
        simp only [executions, runInstructions, found, stepped]
        exact .goesOn found stepped (inductionHypothesis after)
      | done ending =>
        simp only [executions, runInstructions, found, stepped]
        exact .ends found stepped

namespace Turn

/-- **A turn executes no more instructions than it may.** -/
theorem length_le (turn : Turn library budget id count underway executed outcome) :
    executed.length ≤ count := by
  induction turn with
  | absent gone => exact Nat.zero_le _
  | exhausted present => exact Nat.le_refl 0
  | ends found stepped => exact Nat.succ_le_succ (Nat.zero_le _)
  | goesOn found stepped _ inductionHypothesis => exact Nat.succ_le_succ inductionHypothesis

/-- An instruction of a turn is executed by the thread as it is then. -/
theorem get?_of_mem (turn : Turn library budget id count underway executed outcome)
    (executes : (thread, now) ∈ executed) : now.state.threads.get? id = some thread := by
  induction turn with
  | absent gone => cases executes
  | exhausted present => cases executes
  | ends found stepped =>
    obtain ⟨rfl, rfl⟩ := Prod.mk.inj (List.mem_singleton.mp executes)
    exact found
  | goesOn found stepped _ inductionHypothesis =>
    rcases List.mem_cons.mp executes with here | later
    · obtain ⟨rfl, rfl⟩ := Prod.mk.inj here
      exact found
    · exact inductionHypothesis later

/-- **Where instructions lead, the turn leads**: from its beginning to each of its instructions, and
to its end. -/
theorem leads (leadsTo : Underway → Underway → Prop) (refl : ∀ now, leadsTo now now)
    (trans : ∀ {before middle after}, leadsTo before middle → leadsTo middle after →
      leadsTo before after)
    (steps : ∀ {thread now}, now.state.threads.get? id = some thread →
      leadsTo now (step library id thread now).2)
    (aborts : ∀ now fault, leadsTo now (now.abort id fault).2)
    (turn : Turn library budget id count underway executed outcome) :
    (∀ thread now, (thread, now) ∈ executed → leadsTo underway now) ∧
      leadsTo underway outcome.2 := by
  induction turn with
  | @absent _ now gone => exact ⟨nofun, refl now⟩
  | @exhausted now present => exact ⟨nofun, aborts now _⟩
  | @ends _ now after thread ending found stepped =>
    have led := steps found
    rw [stepped] at led
    refine ⟨fun other point executes => ?_, led⟩
    obtain ⟨rfl, rfl⟩ := Prod.mk.inj (List.mem_singleton.mp executes)
    exact refl _
  | @goesOn _ now after thread executed outcome found stepped _ inductionHypothesis =>
    obtain ⟨during, whole⟩ := inductionHypothesis
    have led := steps found
    rw [stepped] at led
    refine ⟨fun other point executes => ?_, trans led whole⟩
    rcases List.mem_cons.mp executes with here | later
    · obtain ⟨rfl, rfl⟩ := Prod.mk.inj here
      exact refl _
    · exact trans led (during other point later)

/-- An instruction with which the thread does not go on is the last one of the turn. -/
theorem eq_of_done (turn : Turn library budget id count underway executed outcome)
    {ending : TurnEnd} (executes : (thread, now) ∈ executed)
    (done : step library id thread now = (.done ending, after)) : outcome = (ending, after) := by
  induction turn with
  | absent gone => cases executes
  | exhausted present => cases executes
  | ends found stepped =>
    obtain ⟨rfl, rfl⟩ := Prod.mk.inj (List.mem_singleton.mp executes)
    obtain ⟨same, rfl⟩ := Prod.mk.inj (stepped.symm.trans done)
    rw [Flow.done.inj same]
  | goesOn found stepped _ inductionHypothesis =>
    rcases List.mem_cons.mp executes with here | later
    · obtain ⟨rfl, rfl⟩ := Prod.mk.inj here
      cases stepped.symm.trans done
    · exact inductionHypothesis later

end Turn

/-- The first instruction is that of the thread as it is. -/
theorem head?_executions (library : Library) (positive : 0 < count)
    (found : underway.state.threads.get? id = some thread) :
    (executions library id count underway).head? = some (thread, underway) := by
  obtain ⟨remaining, rfl⟩ := Nat.exists_eq_succ_of_ne_zero (Nat.ne_of_gt positive)
  rw [executions, found]
  dsimp only
  split <;> rfl

end Lockstep.Underway
