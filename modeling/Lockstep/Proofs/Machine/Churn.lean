import Lockstep.Proofs.Machine.History
import Lockstep.Proofs.Sound.Log
import Lockstep.Proofs.State.Numbered
import Lockstep.Proofs.Table.Keys

/-!
# When the counter of identities runs over

Identities are counted in 32 bits, and nothing looks at who is alive when the next one is given out
(`EntityTable.allocate`). An entity that is made and removed again leaves nothing behind but the
counter, which has moved on by one (`History.extend_pair`). So with enough of such pairs a host gets
a machine once around all identities (`Machine.history_lap`): everything is as it was, but the
counter is at zero, and the next entity that is made takes the place of whoever was made first.

What relies on identities being new holds of histories in which fewer than `2 ^ 32` entities come, and
no longer of machines that have gone around.
-/

set_option autoImplicit false

namespace Lockstep

namespace State

/-- The state with another counter of identities. -/
def recount (state : State) (given : UInt32) : State :=
  { state with entities := { state.entities with nextId := given } }

/-- Those who are alive, those who have an entry in the index of sounds, and those whom anybody has
feelings about. -/
def acquainted (state : State) : List EntityId :=
  state.entities.entities.keys ++ state.sounds.byOwner.keys ++
    state.entities.entities.values.flatMap fun entity => entity.relationships.keys

variable {state : State} {id : EntityId}

section

variable (unknown : id ∉ state.acquainted)

include unknown

theorem get?_of_unknown : state.entities.entities.get? id = none := by
  refine Table.get?_of_not_contains fun alive => unknown ?_
  exact List.mem_append_left _ (List.mem_append_left _ (Table.mem_keys.mpr alive))

theorem byOwner_of_unknown : state.sounds.byOwner.get? id = none := by
  refine Table.get?_of_not_contains fun indexed => unknown ?_
  exact List.mem_append_left _ (List.mem_append_right _ (Table.mem_keys.mpr indexed))

theorem relationships_of_unknown {other : EntityId} {entity : Entity}
    (found : state.entities.entities.get? other = some entity) :
    entity.relationships.get? id = none := by
  refine Table.get?_of_not_contains fun felt => unknown (List.mem_append_right _ ?_)
  have alive : entity ∈ state.entities.entities.values :=
    List.mem_map_of_mem (Table.mem_entries_iff.mpr found)
  exact List.mem_flatMap.mpr ⟨entity, alive, Table.mem_keys.mpr felt⟩

end

/-- Whoever comes into the table and is taken out again, with all feelings about it, leaves the table
as it was. -/
theorem forgotten_of_unknown (unknown : id ∉ state.acquainted) (made : Entity)
    (change : Entity → Entity) :
    (((state.entities.entities.insert id made).modify id change).erase id).mapValues
      (fun _ entity => { entity with relationships := entity.relationships.erase id }) =
        state.entities.entities := by
  refine Table.ext_get? fun probe => ?_
  rw [Table.get?_mapValues]
  by_cases here : probe = id
  · rw [here, Table.get?_erase_self, get?_of_unknown unknown]
    rfl
  · rw [Table.get?_erase_of_ne _ here, Table.get?_modify_of_ne _ here,
      Table.get?_insert_of_ne _ here]
    cases there : state.entities.entities.get? probe with
    | none => rfl
    | some entity =>
      rw [Option.map_some, Table.erase_eq_self (relationships_of_unknown unknown there)]

/-- An entity that is made and removed again leaves nothing behind but the counter. -/
theorem despawn_spawned (unknown : ⟨state.entities.nextId + 1⟩ ∉ state.acquainted) :
    ∃ trace, (state.spawn .object "" .empty).2.despawn ⟨state.entities.nextId + 1⟩ =
        some (trace, state.recount (state.entities.nextId + 1)) ∧
      soundEvents .recording trace = [] := by
  let id : EntityId := ⟨state.entities.nextId + 1⟩
  let spawned := (state.spawn .object "" .empty).2
  have found : spawned.entities.get? id = some (Entity.new id .object "" .empty) :=
    Table.get?_insert_self ..
  have index : state.sounds.byOwner.erase id = state.sounds.byOwner :=
    Table.erase_eq_self (byOwner_of_unknown unknown)
  have silent : spawned.stopped id = [] := by
    have none : spawned.sounds.channelSet id = Table.empty := by
      rw [SoundIndex.channelSet]
      exact congrArg (Option.getD · _) (byOwner_of_unknown unknown)
    rw [stopped, releaseSounds, found, none]
    rfl
  cases gone : spawned.despawn id with
  | none => exact absurd (found.symm.trans (Option.map_eq_none_iff.mp gone)) (Option.some_ne_none _)
  | some removed =>
    obtain ⟨trace, next⟩ := removed
    obtain ⟨made, held, told, rfl⟩ := despawn_eq gone
    obtain rfl := Option.some.inj (held.symm.trans found)
    rw [silent] at told
    have entities : cutLinks ((spawned.stopSounds id).entities.erase id)
        (Entity.new id .object "" .empty) id = { state.entities with nextId := id.number } :=
      congrArg (EntityTable.mk · id.number) (forgotten_of_unknown unknown _ _)
    have sounds : spawned.sounds.removeOwner id = state.sounds :=
      congrArg (SoundIndex.mk · state.sounds.nextChannel) index
    rw [entities, sounds]
    exact ⟨trace, rfl, told ▸ rfl⟩

end State

/-! ## Once around all identities -/

/-- Entities are made and removed again, so many times. The number is that of the last identity that
was given out before. -/
def churn (given : UInt32) : Nat → List Operation
  | 0 => []
  | count + 1 =>
    .spawn .object "" .empty :: .despawn ⟨given + 1⟩ :: churn (given + 1) count

/-- Entities are made and removed again until identities begin anew. -/
def lap (given : UInt32) : List Operation := churn given (2 ^ 32 - given.toNat)

namespace History

variable {history : History} {given : UInt32}

/-- A pair of operations moves the counter of identities on, and the player hears nothing of it. -/
theorem extend_pair (counter : history.machine.state.entities.nextId = given)
    (unknown : ⟨given + 1⟩ ∉ history.machine.state.acquainted) :
    let next := (history.extend (.spawn .object "" .empty)).extend (.despawn ⟨given + 1⟩)
    next.machine = { history.machine with state := history.machine.state.recount (given + 1) } ∧
      soundEvents .recording next.trace = soundEvents .recording history.trace := by
  subst counter
  obtain ⟨trace, gone, silent⟩ := State.despawn_spawned unknown
  rw [extend, extend]
  dsimp only
  rw [Machine.despawn]
  have removed : (history.machine.spawn .object "" .empty).2.state.despawn
      ⟨history.machine.state.entities.nextId + 1⟩ = some (trace, _) := gone
  rw [removed]
  refine ⟨rfl, (soundEvents_append ..).trans ?_⟩
  rw [silent, List.append_nil]

/-- So many pairs move the counter on, as long as nobody knows the identities. -/
theorem foldl_churn {count : Nat} (counter : history.machine.state.entities.nextId = given)
    (unknown : ∀ passed < count,
      ⟨given + UInt32.ofNat passed + 1⟩ ∉ history.machine.state.acquainted) :
    let next := (churn given count).foldl extend history
    next.machine =
        { history.machine with
          state := history.machine.state.recount (given + UInt32.ofNat count) } ∧
      soundEvents .recording next.trace = soundEvents .recording history.trace := by
  induction count generalizing history given with
  | zero =>
    subst counter
    refine ⟨?_, rfl⟩
    rw [show UInt32.ofNat 0 = 0 from rfl, UInt32.add_zero]
    rfl
  | succ count inductionHypothesis =>
    have first := unknown 0 (Nat.zero_lt_succ count)
    rw [show UInt32.ofNat 0 = 0 from rfl, UInt32.add_zero] at first
    obtain ⟨machine, told⟩ := extend_pair counter first
    have on (passed : Nat) :
        given + 1 + UInt32.ofNat passed = given + UInt32.ofNat (passed + 1) := by
      rw [UInt32.add_assoc, UInt32.add_comm 1, UInt32.ofNat_add]
      rfl
    have moved : ((history.extend (.spawn .object "" .empty)).extend
        (.despawn ⟨given + 1⟩)).machine.state.entities.nextId = given + 1 := by
      rw [machine]
      rfl
    obtain ⟨after, silent⟩ := inductionHypothesis moved fun passed fewer => by
      rw [machine, on]
      exact unknown (passed + 1) (Nat.succ_lt_succ fewer)
    rw [machine, on] at after
    exact ⟨after, silent.trans told⟩

/-- **Once around all identities everything is as it was**, but the counter is at zero, if nobody is
known but those whose identities have been given out. -/
theorem foldl_lap (counter : history.machine.state.entities.nextId = given)
    (known : ∀ id ∈ history.machine.state.acquainted, 0 < id.number ∧ id.number ≤ given) :
    let next := (lap given).foldl extend history
    next.machine = { history.machine with state := history.machine.state.recount 0 } ∧
      soundEvents .recording next.trace = soundEvents .recording history.trace := by
  have bound := given.toNat_lt
  have around : given + UInt32.ofNat (2 ^ 32 - given.toNat) = 0 := by
    rw [← UInt32.toNat_inj, UInt32.toNat_add, UInt32.toNat_ofNat']
    show (given.toNat + (2 ^ 32 - given.toNat) % 2 ^ 32) % 2 ^ 32 = 0
    omega
  have unknown : ∀ passed < 2 ^ 32 - given.toNat,
      ⟨given + UInt32.ofNat passed + 1⟩ ∉ history.machine.state.acquainted := by
    intro passed fewer member
    obtain ⟨low, high⟩ := known _ member
    rw [UInt32.lt_iff_toNat_lt] at low
    rw [UInt32.le_iff_toNat_le] at high
    rw [UInt32.toNat_add, UInt32.toNat_add, UInt32.toNat_ofNat'] at low high
    simp only [UInt32.toNat_zero, UInt32.toNat_one] at low high
    omega
  have laps := foldl_churn counter unknown
  rw [around] at laps
  exact laps

end History

namespace Machine

section

variable {library : Library} {settings : Settings} {operations : List Operation} {given : UInt32}
  (counter : (history library settings operations).machine.state.entities.nextId = given)
  (known : ∀ id ∈ (history library settings operations).machine.state.acquainted,
    0 < id.number ∧ id.number ≤ given)

include counter known

/-- A machine may go once around all identities, after anything that a host has done with it. -/
theorem history_lap :
    (history library settings (operations ++ lap given)).machine =
        { (history library settings operations).machine with
          state := (history library settings operations).machine.state.recount 0 } ∧
      soundEvents .recording (history library settings (operations ++ lap given)).trace =
        soundEvents .recording (history library settings operations).trace := by
  have same : history library settings (operations ++ lap given) =
      (lap given).foldl History.extend (history library settings operations) := List.foldl_append
  rw [same]
  exact History.foldl_lap counter known

/-- The next entity gets the first identity, whether or not anybody has it. -/
theorem history_lap_spawn (name : String) :
    (history library settings
          (operations ++ lap given ++ [.spawn .object name .empty])).machine =
        { (history library settings operations).machine with
          state := (((history library settings operations).machine.state.recount 0).spawn .object
            name .empty).2 } ∧
      soundEvents .recording (history library settings
          (operations ++ lap given ++ [.spawn .object name .empty])).trace =
        soundEvents .recording (history library settings operations).trace := by
  obtain ⟨machine, told⟩ := history_lap counter known
  rw [history_concat, History.extend, Machine.spawn, machine]
  exact ⟨rfl, told⟩

end

end Machine

end Lockstep
