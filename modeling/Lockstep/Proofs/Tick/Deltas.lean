import Lockstep.Proofs.Datum.RoundTrip
import Lockstep.Proofs.Message.Size
import Lockstep.Proofs.Table.Keys
import Lockstep.Tick

/-!
# Sizes of deltas

The deltas of a tick say of each entity that was there before or is there now that it is gone or how
it looks, and of a new one also what its name is. So their size is bounded by how many entities
there are and by the names of new ones (`EntityTable.size_deltasSince_le`).
-/

set_option autoImplicit false

namespace Lockstep

/-! ## What is seen -/

/-- What is seen of each entity, where each has the identity that it is kept under. -/
theorem EntityTable.get?_summaries {table : EntityTable}
    (identified : ∀ id entity, table.get? id = some entity → entity.id = id) (id : EntityId) :
    table.summaries.get? id = (table.get? id).map Entity.summary := by
  have same : table.list.map (fun entity => (entity.id, entity.summary)) =
      (table.entities.mapValues fun _ entity => entity.summary).entries := by
    rw [list, Table.values, List.map_map]
    refine List.map_congr_left fun entry member => ?_
    rw [Function.comp_apply, identified entry.1 entry.2 (Table.mem_entries_iff.mp member)]
  rw [summaries, same, Table.ofList_entries]
  exact Table.get?_mapValues _ _ id

/-! ## Sums -/

/-- What one member of a list adds to a sum. -/
theorem sum_map_if_le {α : Type} [DecidableEq α] {list : List α} (once : list.Nodup)
    (chosen : Option α) (extra : Nat) :
    (list.map fun member => if some member = chosen then extra else 0).sum ≤ extra := by
  induction list with
  | nil => exact Nat.zero_le _
  | cons head rest inductionHypothesis =>
    obtain ⟨absent, once⟩ := List.nodup_cons.mp once
    rw [List.map_cons, List.sum_cons]
    by_cases here : some head = chosen
    · have none : (rest.map fun member => if some member = chosen then extra else 0).sum = 0 := by
        refine List.sum_eq_zero fun value member => ?_
        obtain ⟨other, present, rfl⟩ := List.mem_map.mp member
        refine if_neg fun there => absent ?_
        exact Option.some.inj (there.trans here.symm) ▸ present
      rw [if_pos here, none]
      exact Nat.le_refl _
    · rw [if_neg here, Nat.zero_add]
      exact inductionHypothesis once

namespace EntityTable

variable {before after : EntityTable} {newcomer : Option EntityId} {longest : Nat}

/-- What is said of one entity, where a new one has a name that is not too long. -/
theorem size_changesOf_le {id : EntityId}
    (fresh : ∀ entity, after.get? id = some entity → before.get? id = none →
      some id = newcomer ∧ entity.name.utf8ByteSize ≤ longest) :
    ((after.changesOf id ((before.get? id).map Entity.summary)
        ((after.get? id).map Entity.summary)).map fun change =>
      (Written.write (EntityDelta.mk id change)).size).sum ≤
      172 + if some id = newcomer then 172 + longest else 0 := by
  have described (entity : Entity) :
      (Written.write (EntityDelta.mk id (.updated entity.summary))).size ≤ 172 := by
    refine EntityDelta.size_le fun summary same => ?_
    obtain rfl := EntityChange.updated.inj same
    exact Vector.length_toList
  cases old : before.get? id with
  | none =>
    cases new : after.get? id with
    | none => exact Nat.zero_le _
    | some entity =>
      obtain ⟨here, short⟩ := fresh entity new old
      have announced : (Written.write (EntityDelta.mk id (.spawned entity.kind entity.name))).size ≤
          172 + entity.name.utf8ByteSize :=
        EntityDelta.size_le fun summary same => nomatch same
      have updated := described entity
      rw [if_pos here, Option.map_none, Option.map_some, changesOf, new, List.map_cons,
        List.map_cons, List.map_nil, List.sum_cons, List.sum_cons, List.sum_nil]
      omega
  | some previous =>
    cases new : after.get? id with
    | none =>
      have gone : (Written.write (EntityDelta.mk id .despawned)).size ≤ 172 :=
        EntityDelta.size_le fun summary same => nomatch same
      exact Nat.le_trans gone (Nat.le_add_right _ _)
    | some entity =>
      rw [Option.map_some, Option.map_some, changesOf]
      split
      · exact Nat.zero_le _
      · exact Nat.le_trans (described entity) (Nat.le_add_right _ _)

/-- What is said of all entities, where those that are alive before or now are among some, and at
most one is new. -/
theorem size_deltasSince_le {live : List EntityId}
    (identifiedBefore : ∀ id entity, before.get? id = some entity → entity.id = id)
    (identified : ∀ id entity, after.get? id = some entity → entity.id = id)
    (alive : ∀ id, before.contains id = true ∨ after.contains id = true → id ∈ live)
    (fresh : ∀ id entity, after.get? id = some entity → before.get? id = none →
      some id = newcomer ∧ entity.name.utf8ByteSize ≤ longest) :
    ((after.deltasSince before.summaries).map fun delta => (Written.write delta).size).sum ≤
      172 * live.length + (172 + longest) := by
  have seen (table : EntityTable)
      (identified : ∀ id entity, table.get? id = some entity → entity.id = id) (id : EntityId) :
      id ∈ table.summaries.keys ↔ table.contains id = true := by
    rw [Table.mem_keys, Table.contains, get?_summaries identified, Option.isSome_map]
    rfl
  let ids : KeySet EntityId := Table.ofList
    ((before.summaries.keys ++ after.summaries.keys).map fun id => (id, ()))
  have few : ids.keys.length ≤ live.length := by
    rw [show ids.keys.length = ids.size from List.length_map _]
    refine Table.size_le_length fun id present => alive id ?_
    obtain ⟨_, member⟩ := Table.contains_ofList_iff.mp present
    obtain ⟨same, listed, equal⟩ := List.mem_map.mp member
    obtain rfl := congrArg Prod.fst equal
    exact (List.mem_append.mp listed).imp (seen before identifiedBefore _).mp
      (seen after identified _).mp
  have each : ∀ id ∈ ids.keys,
      ((after.changesOf id (before.summaries.get? id) (after.summaries.get? id)).map fun change =>
        (Written.write (EntityDelta.mk id change)).size).sum ≤
        172 + if some id = newcomer then 172 + longest else 0 := by
    intro id _
    rw [get?_summaries identifiedBefore, get?_summaries identified]
    exact size_changesOf_le fun entity => fresh id entity
  have extra := sum_map_if_le ids.keys_nodup newcomer (172 + longest)
  calc
    ((after.deltasSince before.summaries).map fun delta => (Written.write delta).size).sum =
        (ids.keys.map fun id => ((after.changesOf id (before.summaries.get? id)
          (after.summaries.get? id)).map fun change =>
            (Written.write (EntityDelta.mk id change)).size).sum).sum := by
      rw [deltasSince, List.map_flatMap, List.flatMap_def, List.sum_flatten, List.map_map]
      refine congrArg List.sum (List.map_congr_left fun id _ => ?_)
      rw [Function.comp_apply, List.map_map]
      rfl
    _ ≤ (ids.keys.map fun id => 172 + if some id = newcomer then 172 + longest else 0).sum :=
      List.sum_le_sum each
    _ ≤ 172 * live.length + (172 + longest) := by
      rw [List.sum_map_add, List.map_const', List.sum_replicate_nat]
      have bound := Nat.mul_le_mul_left 172 few
      omega

end EntityTable
end Lockstep
