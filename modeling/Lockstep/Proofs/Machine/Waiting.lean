import Lockstep.Proofs.Machine.Chronicle
import Lockstep.Proofs.Machine.Churn
import Lockstep.Proofs.Tick.Waiting

/-!
# How long threads wait

Sleeping and animating take exactly as long as they say, whatever else goes on meanwhile
(`Machine.history_waits`). From the tick in which a thread begins to wait, it gives way in as many
ticks as the operand says, and is at the same place with the same variables after each of them. In
the next tick the instruction takes its true target, and an animation is over. If what is animated
is removed before that, the instruction takes its false target in the next turn of the thread.
-/

set_option autoImplicit false

namespace Lockstep

/-! ## Turns -/

/-- The turn of a thread in an operation, if that is a tick. -/
def Machine.turnsIn (machine : Machine) (id : ThreadId) : Operation → List Underway
  | .tick commands seed => [machine.atTurn commands seed id]
  | _ => []

namespace History

/-- The turns of a thread in what is done next. -/
def turns (id : ThreadId) (history : History) : List Operation → List Underway
  | [] => []
  | operation :: rest =>
    history.machine.turnsIn id operation ++ turns id (history.extend operation) rest

/-- The states that the machine is in during what is done next. -/
def states (history : History) : List Operation → List State
  | [] => []
  | operation :: rest => history.statesIn operation ++ states (history.extend operation) rest

end History

namespace Stay

variable {stay : Stay} {history : History} {times threads : Nat}

/-- In an operation the thread gives way in its turn, if it has one. -/
theorem get?_extend {operation : Operation} (of : stay.Of history.machine.library)
    (elder : State.Elder stay.id history.machine.state (operation.mostThreads + threads))
    (found : history.machine.state.threads.get? stay.id = some (stay.thread times))
    (alive : ∀ state ∈ history.statesIn operation,
      state.entities.contains stay.id.owner = true)
    (attended : ∀ turn ∈ history.machine.turnsIn stay.id operation, stay.Attended turn)
    (left : times + (history.machine.turnsIn stay.id operation).length ≤ stay.span.toNat) :
    (history.extend operation).machine.state.threads.get? stay.id =
      some (stay.thread (times + (history.machine.turnsIn stay.id operation).length)) := by
  have remains := alive _ (List.mem_append_right _ (List.mem_singleton_self _))
  cases operation with
  | spawn kind name template =>
    exact (State.get?_spawn_threads elder.antedates kind name template).trans found
  | despawn entity =>
    rw [History.extend, Machine.despawn] at remains ⊢
    cases gone : history.machine.state.despawn entity with
    | none => exact found
    | some removed =>
      rw [gone] at remains
      exact ((State.retains_despawn elder.sound gone stay.id).keeps remains).trans found
  | tick commands seed =>
    refine get?_runTick seed of elder found (fun moment during => ?_) remains
      (attended _ List.mem_cons_self) left
    have passing := Machine.mem_moments_of_mem_before during
    exact alive _ (List.mem_append_left _ (List.mem_map_of_mem passing))

/-- **In whatever is done next, the thread gives way in each of its turns**, and is not changed
otherwise. -/
theorem get?_foldl_extend {operations : List Operation} (of : stay.Of history.machine.library)
    (elder : State.Elder stay.id history.machine.state
      (Operation.mostThreadsOf operations + threads))
    (found : history.machine.state.threads.get? stay.id = some (stay.thread times))
    (alive : ∀ state ∈ history.states operations, state.entities.contains stay.id.owner = true)
    (attended : ∀ turn ∈ history.turns stay.id operations, stay.Attended turn)
    (left : times + (history.turns stay.id operations).length ≤ stay.span.toNat) :
    (operations.foldl History.extend history).machine.state.threads.get? stay.id =
        some (stay.thread (times + (history.turns stay.id operations).length)) ∧
      State.Elder stay.id (operations.foldl History.extend history).machine.state threads := by
  induction operations generalizing history times with
  | nil =>
    rw [← Nat.zero_add threads]
    exact ⟨found, elder⟩
  | cons operation rest inductionHypothesis =>
    rw [History.turns, List.length_append, ← Nat.add_assoc] at left ⊢
    rw [History.turns, List.forall_mem_append] at attended
    rw [History.states, List.forall_mem_append] at alive
    have first : State.Elder stay.id history.machine.state
        (operation.mostThreads + (Operation.mostThreadsOf rest + threads)) := by
      rw [← Nat.add_assoc]
      exact elder
    obtain ⟨_, changed, _⟩ := history.extend_changed operation
    exact inductionHypothesis ((history.extend_library operation).symm ▸ of)
      (first.changed changed)
      (get?_extend of first found alive.1 attended.1 (Nat.le_trans (Nat.le_add_right _ _) left))
      alive.2 attended.2 left

end Stay

namespace Machine

variable {library : Library} {settings : Settings}

/-- A thread that executes an instruction in a tick was there when the turns began, and is older
than what comes later. -/
theorem elder_of_executes {earlier : List Operation} {commands : List SequencedCommand}
    {seed : UInt64} {id : ThreadId} {thread : Thread} {now : Underway} {threads : Nat}
    (executes : (thread, now) ∈
      (history library settings earlier).machine.executions commands seed id)
    (room : Operation.mostThreadsOf earlier + SequencedCommand.mostThreads commands + threads <
      2 ^ 64) :
    State.Elder id ((history library settings earlier).machine.begin
      (SequencedCommand.sort commands) seed).state threads := by
  let machine := (history library settings earlier).machine
  obtain ⟨_, begun, _⟩ := machine.edited_turns commands seed []
  obtain ⟨found, during⟩ := Underway.found_of_executes executes
  obtain ⟨_, ⟨deeds, edits, _, _, started, _⟩, _⟩ :=
    (machine.edited_atTurn commands seed id).trans during
  have known := (edits.noNewThread (List.eq_nil_of_length_eq_zero (Nat.le_zero.mp started))).known
  obtain ⟨_, changed⟩ := @history_changed library settings earlier
  exact (changed.trans begun).elder (known id (Table.contains_of_get? found)) room

/-- **Sleeping and animating take exactly as long as they say.** A thread that begins to wait in a
tick has given way, after that tick and after each one of the next, as often as it has had a turn,
and is as it was in all else, as long as its owner is not removed and whoever is animated is alive
in its turns. The turn in which it goes on begins with the instruction that it waits at, if its
owner has not been removed up to then. The instruction takes its true target if all ticks are over,
which may be at once, and its false target if there is nobody any more who could be animated.

How many entities are made does not matter, but fewer than `2 ^ 64` threads are to be asked for,
because after that their numbers are given out again. -/
theorem history_waits (earlier later : List Operation)
    (commands nextCommands : List SequencedCommand) (seed nextSeed : UInt64)
    (room : Operation.mostThreadsOf
      (earlier ++ .tick commands seed :: (later ++ [.tick nextCommands nextSeed])) < 2 ^ 64)
    {stay : Stay} (of : stay.Of library) {start : Underway}
    (begins : (stay.thread 0, start) ∈
      (history library settings earlier).machine.executions commands seed stay.id) :
    let begun := history library settings (earlier ++ [.tick commands seed])
    let waited := history library settings (earlier ++ .tick commands seed :: later)
    let turns := begun.turns stay.id later
    let now := waited.machine.atTurn nextCommands nextSeed stay.id
    stay.Goes library 0 start ∧
      (stay.Attended start → (∀ turn ∈ turns, stay.Attended turn) →
        turns.length < stay.span.toNat →
        (∀ state ∈ begun.machine.state :: begun.states later,
          state.entities.contains stay.id.owner = true) →
        waited.machine.state.threads.get? stay.id = some (stay.thread (turns.length + 1)) ∧
          ((∀ moment ∈ waited.machine.momentsBefore nextCommands nextSeed stay.id,
              moment.state.entities.contains stay.id.owner = true) →
            (waited.machine.executions nextCommands nextSeed stay.id).head? =
              some (stay.thread (turns.length + 1), now) ∧
            stay.Goes library (turns.length + 1) now)) := by
  intro begun waited turns now
  rw [mostThreadsOf_tick, mostThreadsOf_append] at room
  let machine := (history library settings earlier).machine
  have began : begun.machine = (machine.runTick commands seed).machine :=
    congrArg History.machine (history_concat earlier _)
  have waits : waited = later.foldl History.extend begun := by
    show history library settings (earlier ++ .tick commands seed :: later) = _
    rw [List.append_cons, history, List.foldl_append]
    rfl
  obtain ⟨found, _⟩ := Underway.found_of_executes begins
  have elder := elder_of_executes begins room
  refine ⟨Stay.goes of found, fun attended always left alive => ?_⟩
  obtain ⟨remains, during⟩ := List.forall_mem_cons.mp alive
  have some : 0 < stay.span.toNat := Nat.lt_of_le_of_lt (Nat.zero_le _) left
  rw [began] at remains
  have first := Stay.get?_runTick_of_begins ((history_library earlier).symm ▸ of) elder begins
    remains attended some
  have still := elder_runTick elder
  rw [← began] at first still
  obtain ⟨asleep, older⟩ := Stay.get?_foldl_extend ((history_library _).symm ▸ of) still first
    during always ((Nat.add_comm ..).trans_le left)
  rw [← waits, Nat.add_comm] at asleep
  rw [← waits] at older
  refine ⟨asleep, fun present => ?_⟩
  have going := Stay.goes_atTurn nextSeed ((history_library _).symm ▸ of) older asleep present
  rw [history_library] at going
  exact going

/-- A library with a behavior that calls another one, which animates the stack object. -/
def waveLibrary : Library where
  behaviors := (Table.empty.insert 300 ⟨300, "greet", 0, 0,
    [.ofOperand (.call ⟨301, Vector.replicate 4 0, ⟨0⟩⟩) targetTrue targetFalse]⟩).insert 301
      ⟨301, "wave", 0, 0, [.ofOperand (.primitive (.animate 5 2 ⟨1⟩)) targetTrue targetFalse]⟩

/-- A doorman makes a guest wave for two ticks. After both of them its thread is in its second
frame, and in the third tick the guest stops waving, and both frames are left. -/
theorem history_waits_wave :
    let settings : Settings := ⟨10, default⟩
    let earlier : List Operation :=
      [.spawn .object "doorman" default, .tick [⟨1, 1, ⟨7⟩, .join "guest"⟩] 7]
    let commands : List SequencedCommand :=
      [⟨2, 2, ⟨7⟩, .interact ⟨1⟩ 300 (Vector.replicate 4 0)⟩]
    let guest : Option EntityId := some ⟨2⟩
    let stay : Stay :=
      { id := ⟨⟨1⟩, 1⟩
        temps := Vector.replicate 8 0
        frame := .new 301 guest guest (Vector.replicate 4 0)
        callers := [.new 300 guest guest (Vector.replicate 4 0)]
        instruction := .ofOperand (.primitive (.animate 5 2 ⟨1⟩)) targetTrue targetFalse
        action := .animate 5 2 ⟨1⟩
        span := 2 }
    let waited := history waveLibrary settings (earlier ++ .tick commands 8 :: [.tick [] 9])
    let now := waited.machine.atTurn [] 10 stay.id
    waited.machine.state.threads.get? stay.id = some (stay.thread 2) ∧
      (now.state.entities.get? ⟨2⟩).map Entity.animation = some (some ⟨5, 1, 2⟩) ∧
      Underway.step waveLibrary stay.id (stay.thread 2) now =
        stay.leave waveLibrary true (stay.close now) ∧
      (((stay.close now).state.entities.get? ⟨2⟩).map Entity.animation = some none) ∧
      (stay.leave waveLibrary true (stay.close now)).1 = .done (.completed true) := by
  intro settings earlier commands guest stay waited now
  let executions := (history waveLibrary settings earlier).machine.executions commands 8 stay.id
  let start := (executions.map Prod.snd).getD 1 now
  have of : stay.Of waveLibrary := ⟨by decide, by decide, rfl, rfl⟩
  have room : Operation.mostThreadsOf
      (earlier ++ .tick commands 8 :: ([.tick [] 9] ++ [.tick [] 10])) < 2 ^ 64 := by decide
  have begins : (stay.thread 0, start) ∈ executions := by decide +kernel
  have attended : stay.Attended start := ⟨⟨2⟩, rfl, by decide +kernel⟩
  obtain ⟨asleep, going⟩ := (@history_waits waveLibrary settings earlier [.tick [] 9] commands [] 8
    10 room stay of start begins).2 attended
      (List.forall_mem_singleton.mpr ⟨⟨2⟩, rfl, by decide +kernel⟩) Nat.one_lt_two
      (by decide +kernel)
  have goes := (going (by decide +kernel)).2
  exact ⟨asleep, by decide +kernel,
    goes.closes ⟨⟨2⟩, rfl, by decide +kernel⟩ rfl, by decide +kernel, by decide +kernel⟩

/-- A library with a behavior that turns to the first entity and animates it. -/
def beckonLibrary : Library where
  behaviors := Table.empty.insert 300 ⟨300, "beckon", 0, 0,
    [.ofOperand (.primitive (.setStackObject ⟨.literal, 1⟩)) 1 targetFalse,
      .ofOperand (.primitive (.animate 5 3 ⟨1⟩)) targetTrue targetFalse]⟩

/-- A guest that a doorman animates is taken away, and then the counter of identities runs over.
When the thread has its next turn, a rock is the first entity, and the thread goes on to wait as
though the guest had not gone. -/
theorem history_waits_lap :
    let settings : Settings := ⟨10, default⟩
    let parts : List Operation :=
      [.spawn .object "guest" .empty, .spawn .object "doorman" ⟨some 300, [], ⟨0, 0⟩⟩, .tick [] 7,
        .despawn ⟨1⟩]
    let stay : Stay :=
      { id := ⟨⟨2⟩, 1⟩
        temps := Vector.replicate 8 0
        frame := { StackFrame.new 300 none (some ⟨1⟩) (Vector.replicate 4 0) with pc := 1 }
        callers := []
        instruction := .ofOperand (.primitive (.animate 5 3 ⟨1⟩)) targetTrue targetFalse
        action := .animate 5 3 ⟨1⟩
        span := 3 }
    let parted := history beckonLibrary settings parts
    let waited := history beckonLibrary settings (parts ++ lap 2 ++ [.spawn .object "rock" .empty])
    let now := waited.machine.atTurn [] 9 stay.id
    stay.Of beckonLibrary ∧
      parted.machine.state.threads.get? stay.id = some (stay.thread 1) ∧
      parted.machine.state.entities.contains ⟨1⟩ = false ∧
      (waited.machine.executions [] 9 stay.id).head? = some (stay.thread 1, now) ∧
      (Underway.step beckonLibrary stay.id (stay.thread 1) now).1 = .done .yielded := by
  intro settings parts stay parted waited now
  have reached : waited =
      history beckonLibrary settings (parts ++ lap 2 ++ [.spawn .object "rock" .empty]) := rfl
  have same := (@history_lap_spawn beckonLibrary settings parts 2 (by decide +kernel)
    (by decide +kernel) "rock").1
  rw [← reached] at same
  -- From here on the machine is what is known of it, and nobody is to run the operations.
  clear_value waited
  refine ⟨⟨by decide, by decide, rfl, rfl⟩, by decide +kernel, by decide +kernel, ?_, ?_⟩
  · show (waited.machine.executions [] 9 stay.id).head? =
      some (stay.thread 1, waited.machine.atTurn [] 9 stay.id)
    rw [same]
    decide +kernel
  · show (Underway.step beckonLibrary stay.id (stay.thread 1)
      (waited.machine.atTurn [] 9 stay.id)).1 = _
    rw [same]
    decide +kernel

end Machine
end Lockstep
