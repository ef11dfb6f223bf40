import Lockstep.Proofs.State.Passage
import Lockstep.Proofs.Thread.Parts
import Lockstep.Proofs.Tick.Parked

/-!
# Threads that are let be

Nobody ends or changes a thread but the thread itself, and whoever removes its owner
(`State.Keeps`). That is so in the turns of other threads, when commands are applied, and when a host
makes or removes entities. It takes that no thread that is started meanwhile is mistaken for it: its
number has been given out, and not all numbers have (`State.Elder`).
-/

set_option autoImplicit false

namespace Lockstep

/-- If the owner of a thread is alive, the thread is as it was. -/
def State.Keeps (id : ThreadId) (before after : State) : Prop :=
  after.entities.contains id.owner = true → after.threads.get? id = before.threads.get? id

/-- The number of a thread has been given out, and there are so many left. -/
structure State.Elder (id : ThreadId) (state : State) (threads : Nat) : Prop where
  sound : state.ListsSound
  antedates : State.Antedates id state threads

namespace State

variable {before middle after : State} {id : ThreadId} {threads started : Nat}

/-! ## Numbers -/

/-- Every thread that is started moves the counter of threads on, and nothing else does. -/
theorem Edit.nextThreadSeq {deeds : List Deed} (edit : Edit before deeds after) :
    after.nextThreadSeq = before.nextThreadSeq + UInt64.ofNat (threadsStarted deeds).length := by
  cases edit with
  | startThread started =>
    obtain ⟨_, _, rfl⟩ := startThread_eq started
    rfl
  | playSound sound volume looping alive =>
    rw [threadsStarted_heard]
    exact (UInt64.add_zero _).symm
  | stopSounds owner =>
    rw [threadsStarted_heard]
    exact (UInt64.add_zero _).symm
  | despawn despawned =>
    obtain ⟨_, _, _, rfl⟩ := despawn_eq despawned
    rw [threadsStarted_heard]
    exact (UInt64.add_zero _).symm
  | _ => exact (UInt64.add_zero _).symm

theorem Edits.nextThreadSeq {deeds : List Deed} (edits : Edits before deeds after) :
    after.nextThreadSeq = before.nextThreadSeq + UInt64.ofNat (threadsStarted deeds).length := by
  induction edits with
  | none => exact (UInt64.add_zero _).symm
  | more _ edit inductionHypothesis =>
    rw [threadsStarted_append, List.length_append, UInt64.ofNat_add, ← UInt64.add_assoc,
      ← inductionHypothesis]
    exact edit.nextThreadSeq

/-- The numbers of all threads have been given out. -/
theorem Edits.seq_le {deeds : List Deed} (edits : Edits State.empty deeds after)
    (few : (threadsStarted deeds).length < 2 ^ 64) (present : after.threads.contains id = true) :
    id.seq.toNat ≤ after.nextThreadSeq.toNat := by
  have counted {state : State} {deeds : List Deed} (edits : Edits State.empty deeds state)
      (few : (threadsStarted deeds).length < 2 ^ 64) :
      state.nextThreadSeq.toNat = (threadsStarted deeds).length := by
    rw [edits.nextThreadSeq]
    show (0 + UInt64.ofNat (threadsStarted deeds).length).toNat = _
    rw [UInt64.zero_add, UInt64.toNat_ofNat']
    exact Nat.mod_eq_of_lt few
  rw [counted edits few]
  induction edits with
  | none => exact nomatch present
  | @more middle after deeds latest edits edit inductionHypothesis =>
    rw [threadsStarted_append, List.length_append] at few ⊢
    have fewBefore := Nat.lt_of_le_of_lt (Nat.le_add_right _ _) few
    by_cases nothing : threadsStarted latest = []
    · have old := (edit.noNewThread nothing).known id present
      exact (inductionHypothesis fewBefore old).trans (Nat.le_add_right _ _)
    · cases edit with
      | startThread begun =>
        obtain ⟨_, rfl, rfl⟩ := startThread_eq begun
        obtain rfl | old := Table.contains_insert_iff.mp present
        · show (middle.nextThreadSeq + 1).toNat ≤ _
          rw [UInt64.toNat_add, counted edits fewBefore]
          exact Nat.mod_le _ _
        · exact (inductionHypothesis fewBefore old).trans (Nat.le_add_right _ _)
      | playSound => exact absurd (threadsStarted_heard _) nothing
      | stopSounds => exact absurd (threadsStarted_heard _) nothing
      | despawn => exact absurd (threadsStarted_heard _) nothing
      | _ => exact absurd rfl nothing

/-- A thread that is there is older than what comes later. -/
theorem Changed.elder {made : Nat} {events : List SoundEvent}
    (changed : State.empty.Changed made started events after)
    (present : after.threads.contains id = true) (room : started + threads < 2 ^ 64) :
    Elder id after threads := by
  obtain ⟨deeds, edits, _, _, few, _⟩ := changed
  have enough : (threadsStarted deeds).length < 2 ^ 64 := by omega
  refine ⟨edits.listsSound, edits.seq_le enough present, ?_⟩
  rw [edits.nextThreadSeq]
  show (0 + UInt64.ofNat (threadsStarted deeds).length).toNat + threads < 2 ^ 64
  rw [UInt64.zero_add, UInt64.toNat_ofNat', Nat.mod_eq_of_lt enough]
  omega

/-- Those who were there before stay older, as long as no more come than there are numbers left. -/
theorem Elder.changed {made : Nat} {events : List SoundEvent}
    (elder : Elder id before (started + threads))
    (changed : before.Changed made started events after) : Elder id after threads := by
  obtain ⟨deeds, edits, _, _, few, _⟩ := changed
  obtain ⟨sound, given, room⟩ := elder
  have on : after.nextThreadSeq.toNat =
      before.nextThreadSeq.toNat + (threadsStarted deeds).length := by
    rw [edits.nextThreadSeq, UInt64.toNat_add, UInt64.toNat_ofNat']
    omega
  refine ⟨edits.keep sound fun edit => edit.listsSound, ?_, ?_⟩
  · omega
  · omega

theorem Elder.still {made : Nat} {events : List SoundEvent} (elder : Elder id before threads)
    (changed : before.Changed made 0 events after) : Elder id after threads := by
  rw [← Nat.zero_add threads] at elder
  exact elder.changed changed

/-! ## What keeps a thread -/

theorem Retains.keeps (retains : Retains id before after) : Keeps id before after := by
  intro alive
  obtain same | ⟨_, _, dead⟩ := retains.thread
  · exact same
  · exact absurd alive dead

/-- A thread that is started is another one than those that are older. -/
theorem get?_startThread {owner : EntityId} {behavior : UInt16}
    {caller stackObject : Option EntityId} {params : Vector Int16 4} {begun : ThreadId}
    (antedates : Antedates id before (1 + threads))
    (starts : before.startThread owner behavior caller stackObject params = some (begun, after)) :
    after.threads.get? id = before.threads.get? id := by
  have apart : id.seq ≠ before.nextThreadSeq + 1 := antedates.fresh (by omega)
  obtain ⟨_, rfl, rfl⟩ := startThread_eq starts
  exact Table.get?_insert_of_ne _ (fun same => apart (congrArg ThreadId.seq same)) _

theorem get?_spawn_threads (antedates : Antedates id before (1 + threads)) (kind : EntityKind)
    (name : String) (template : EntityTemplate) :
    (before.spawn kind name template).2.threads.get? id = before.threads.get? id := by
  obtain ⟨_, same⟩ | ⟨_, _, _, _, starts, same⟩ := before.spawn_cases kind name template
  · rw [same]
  · rw [same]
    -- The thread is started when the entity has been made, which does not touch threads.
    have still : Antedates id
        { before with entities := (before.entities.allocate kind name template).2 }
        (1 + threads) := ⟨antedates.given, antedates.room⟩
    have kept := get?_startThread still starts
    exact kept

end State

/-! ## Commands and turns -/

namespace Underway

variable {library : Library} {settings : Settings} {underway after : Underway} {id : ThreadId}
  {threads : Nat}

theorem Edited.elder {made started : Nat} (edited : underway.Edited made started after)
    (elder : State.Elder id underway.state (started + threads)) :
    State.Elder id after.state threads := by
  obtain ⟨_, changed, _⟩ := edited
  exact elder.changed changed

/-- **A command lets an older thread be**, unless it removes the owner. -/
theorem Applied.keeps {client : ClientId} {action : CommandAction}
    (applied : Applied library settings client underway action after)
    (elder : State.Elder id underway.state (action.mostThreads + threads)) :
    State.Keeps id underway.state after.state := by
  cases applied with
  | @joins name new made vacant spawned =>
    have same := State.get?_spawn_threads elder.antedates .avatar name settings.avatar
    rw [spawned] at same
    exact fun _ => same
  | leaves bound gone => exact (State.retains_despawn elder.sound gone id).keeps
  | interacts bound known may starts =>
    exact fun _ => State.get?_startThread elder.antedates starts
  | _ => exact fun _ => rfl

/-- Commands let an older thread be, as long as none of them removes its owner. -/
theorem keeps_commands (commands : List SequencedCommand)
    (elder : State.Elder id underway.state (SequencedCommand.mostThreads commands + threads))
    (alive : ∀ moment ∈ commands.scanl (applyCommand library settings) underway,
      moment.state.entities.contains id.owner = true) :
    (commands.foldl (applyCommand library settings) underway).state.threads.get? id =
      underway.state.threads.get? id := by
  induction commands generalizing underway with
  | nil => rfl
  | cons command rest inductionHypothesis =>
    rw [List.scanl_cons] at alive
    have first : State.Elder id underway.state
        (command.action.mostThreads + (SequencedCommand.mostThreads rest + threads)) := by
      rw [← Nat.add_assoc]
      exact elder
    have applied := applyCommand_applied library settings underway command
    have later := (List.forall_mem_cons.mp alive).2
    exact (inductionHypothesis (applied.edited.elder first) later).trans
      (applied.keeps first (later _ (List.mem_of_mem_head? List.head?_scanl)))

end Underway

namespace Machine

variable {machine : Machine} {underway : Underway} {id : ThreadId}

/-- **The turns of other threads let a thread be**, unless they remove its owner. -/
theorem turns_retain (sound : underway.state.ListsSound) {ids : List ThreadId} (other : id ∉ ids) :
    State.Retains id underway.state (ids.foldl machine.turn underway).state := by
  induction ids generalizing underway with
  | nil => exact .refl id _
  | cons first rest inductionHypothesis =>
    have turn : State.Retains id underway.state (machine.turn underway first).state :=
      Underway.runTurn_retains _ sound (List.ne_of_not_mem_cons other)
    have still : (machine.turn underway first).state.ListsSound :=
      (Underway.edited_runTurn _ first underway).listsSound sound
    exact turn.trans (inductionHypothesis still (List.not_mem_of_not_mem_cons other))

end Machine
end Lockstep
