import Lockstep.Proofs.Machine.Births
import Lockstep.Proofs.Machine.Churn
import Lockstep.Proofs.Thread.Registry
import Lockstep.Proofs.Tick.Parked

/-!
# Threads in histories

Whatever is done with a machine that starts empty, its table of threads and the lists of its
entities agree, also in the middle of a tick (`Machine.history_threads`). So an entity goes with its
own threads and with no others, and a thread that has its turn has an owner.
-/

set_option autoImplicit false

namespace Lockstep

namespace State

/-- What is written down of threads. -/
structure ThreadsAgree (state : State) : Prop where
  /-- A thread is in the table when its owner is alive and lists it. -/
  listed : ∀ id, state.threads.contains id = true ↔
    ∃ entity, state.entities.get? id.owner = some entity ∧ id ∈ entity.threads
  owned : ∀ owner entity, state.entities.get? owner = some entity →
    ∀ id ∈ entity.threads, id.owner = owner
  listedOnce : ∀ owner entity, state.entities.get? owner = some entity → entity.threads.Nodup
  ascending : ∀ owner entity, state.entities.get? owner = some entity →
    entity.threads.Pairwise fun first second => first.seq < second.seq
  /-- A thread is kept under its own identity. -/
  identified : ∀ id thread, state.threads.get? id = some thread → thread.id = id
  distinct : (state.threads.keys.map ThreadId.seq).Nodup
  counted : ∀ id ∈ state.threads.keys, id.seq ≤ state.nextThreadSeq
  /-- An entity goes with all of its threads, and no other thread goes or changes. -/
  removed : ∀ id trace next, state.despawn id = some (trace, next) →
    ∀ thread, next.threads.get? thread =
      if thread.owner = id then none else state.threads.get? thread

theorem Registered.agree {state : State} {started : Nat} (registered : state.Registered started)
    (keyed : state.threads.Keyed) : state.ThreadsAgree where
  listed id := by
    rw [registered.listed, threadsOf, EntityTable.field]
    cases state.entities.get? id.owner <;> simp
  owned owner entity found := by
    have listed : state.threadsOf owner = entity.threads := EntityTable.field_of_get? found _ _
    exact listed ▸ registered.owned owner
  listedOnce owner entity found := by
    have listed : state.threadsOf owner = entity.threads := EntityTable.field_of_get? found _ _
    refine listed ▸ (registered.ascending owner).imp fun {first second} before same => ?_
    exact absurd (same ▸ before) (UInt64.lt_irrefl _)
  ascending owner entity found := by
    have listed : state.threadsOf owner = entity.threads := EntityTable.field_of_get? found _ _
    exact listed ▸ registered.ascending owner
  identified := keyed
  distinct := by
    refine List.Nodup.map_on (fun first firstMember second secondMember same => ?_)
      (Table.keys_nodup _)
    exact registered.distinct first second (Table.mem_keys.mp firstMember)
      (Table.mem_keys.mp secondMember) same
  counted id member := registered.bound id (Table.mem_keys.mp member)
  removed _ _ _ despawned := registered.get?_despawn despawned

/-- What edits lead to from the empty state is written down in agreement. -/
theorem Changed.threadsAgree {state : State} {entities threads : Nat} {events : List SoundEvent}
    (changed : State.empty.Changed entities threads events state) (few : entities < 2 ^ 32)
    (room : threads < 2 ^ 64) : state.ThreadsAgree := by
  obtain ⟨deeds, edits, _, made, started, _⟩ := changed
  have registered :=
    edits.registered (Nat.lt_of_le_of_lt made few) (Nat.lt_of_le_of_lt started room)
  exact registered.agree (edits.keyed nofun)

end State

namespace Machine

variable {library : Library} {settings : Settings}

/-- **The table of threads and the lists of entities agree** after every history and, in each of its
ticks, before the first turn and after each one, unless `2 ^ 32` entities have come or `2 ^ 64`
threads were asked for. So each thread that is still waiting for its turn has an owner, if it has
not gone with it.

From then on a new entity can take the place of a live one, whose threads stay in the table though
nobody lists them any more. -/
theorem history_threads (operations : List Operation)
    (few : (births (passed library settings operations)).length < 2 ^ 32)
    (room : Operation.mostThreadsOf operations < 2 ^ 64) :
    (history library settings operations).machine.state.ThreadsAgree ∧
      ∀ earlier commands seed later, operations = earlier ++ .tick commands seed :: later →
        let machine := (history library settings earlier).machine
        let begun := machine.begin (SequencedCommand.sort commands) seed
        ∀ done waiting, begun.state.threads.keys = done ++ waiting →
          let state := (machine.runTurns done begun []).2.state
          state.ThreadsAgree ∧
            ∀ id ∈ waiting, state.threads.contains id = true →
              state.entities.contains id.owner = true := by
  refine ⟨(history_counted operations few).threadsAgree few room, ?_⟩
  rintro earlier commands seed later rfl machine begun done waiting _ state
  rw [mostThreadsOf_tick] at room
  obtain ⟨made, enough, events, changed, _⟩ :=
    history_turns_counted earlier later commands seed done few
  have before := history_counted earlier (births_length_lt few)
  have agree : state.ThreadsAgree :=
    (before.trans changed).threadsAgree enough (Nat.lt_of_le_of_lt (Nat.le_add_right _ _) room)
  refine ⟨agree, fun id _ present => ?_⟩
  obtain ⟨entity, found, _⟩ := (agree.listed id).mp present
  exact Table.contains_of_get? found

/-- A cat naps in its first tick, in which a client comes with an avatar that dozes. Between the two
turns of that tick both have a thread, and when the cat has been taken away only the avatar has. -/
theorem history_threads_cat :
    let settings : Settings := ⟨10, ⟨some 301, [], ⟨0, 0⟩⟩⟩
    let commands : List SequencedCommand := [⟨1, 1, ⟨1⟩, .join "guest"⟩]
    let cat : Operation := .spawn .object "cat" ⟨some 300, [], ⟨0, 0⟩⟩
    let operations : List Operation := [cat, .tick commands 7, .despawn ⟨1⟩]
    let machine := (history napLibrary settings [cat]).machine
    let begun := machine.begin (SequencedCommand.sort commands) 7
    let between := (machine.runTurns [⟨⟨1⟩, 1⟩] begun []).2.state
    let last := (history napLibrary settings operations).machine.state
    (births (passed napLibrary settings operations)).length < 2 ^ 32 ∧
      Operation.mostThreadsOf operations < 2 ^ 64 ∧
      begun.state.threads.keys = [⟨⟨1⟩, 1⟩] ++ [⟨⟨2⟩, 2⟩] ∧
      between.threads.keys = [⟨⟨1⟩, 1⟩, ⟨⟨2⟩, 2⟩] ∧ between.ThreadsAgree ∧
      last.threads.keys = [⟨⟨2⟩, 2⟩] ∧ last.ThreadsAgree := by
  intro settings commands cat operations machine begun between last
  have few : (births (passed napLibrary settings operations)).length < 2 ^ 32 := by
    decide +kernel
  have room : Operation.mostThreadsOf operations < 2 ^ 64 := by decide
  have started : begun.state.threads.keys = [⟨⟨1⟩, 1⟩] ++ [⟨⟨2⟩, 2⟩] := by decide +kernel
  obtain ⟨agree, ticks⟩ :=
    @history_threads napLibrary settings operations few room
  obtain ⟨midst, _⟩ := ticks [cat] commands 7 [.despawn ⟨1⟩] rfl _ _ started
  exact ⟨few, room, started, by decide +kernel, midst, by decide +kernel, agree⟩

/-- When the counter of identities has run over, a rock takes the place of the cat. The thread of the
cat is still in the table, and nobody lists it. -/
theorem history_threads_lap :
    let settings : Settings := ⟨10, default⟩
    let naps : List Operation := [.spawn .object "cat" ⟨some 300, [], ⟨0, 0⟩⟩, .tick [] 7]
    let operations := naps ++ lap 1 ++ [.spawn .object "rock" .empty]
    let state := (history napLibrary settings operations).machine.state
    state.threads.keys = [⟨⟨1⟩, 1⟩] ∧
      state.entities.list.map Entity.threads = [[]] ∧ ¬ state.ThreadsAgree := by
  intro settings naps operations state
  have same : state = _ := congrArg Machine.state
    (@history_lap_spawn napLibrary settings naps 1 (by decide +kernel) (by decide +kernel) "rock").1
  have listless : (state.entities.get? ⟨1⟩).map Entity.threads = some [] := by
    rw [same]
    decide +kernel
  refine ⟨?_, ?_, fun agree => ?_⟩
  · rw [same]
    decide +kernel
  · rw [same]
    decide +kernel
  · have present : state.threads.contains ⟨⟨1⟩, 1⟩ = true := by
      rw [same]
      decide +kernel
    obtain ⟨entity, found, listed⟩ := (agree.listed ⟨⟨1⟩, 1⟩).mp present
    rw [found] at listless
    rw [Option.some.inj listless] at listed
    exact absurd listed List.not_mem_nil

end Machine
end Lockstep
