import Mathlib.Data.List.Pairwise
import Lockstep.Proofs.Machine.History
import Lockstep.Proofs.State.Lasting
import Lockstep.Proofs.Tick.Deltas
import Lockstep.Proofs.Tick.Edited

/-!
# Reports say what changed

Who takes in the deltas of a tick, one after the other, sees after the tick what there is to see, if
that was so before it, and no delta says what was known (`TickReport.Describes`). The same is true
of the avatars of a report. Both hold of every tick of a machine that started empty, whatever comes,
goes and changes in it (`Machine.history_describes`).

Deltas of different entities do not get in each other's way: what is seen of an entity after some
deltas follows from the changes that are about this entity alone (`get?_takeIn`).
-/

set_option autoImplicit false

namespace Lockstep

/-! ## Taking deltas in -/

/-- What is seen of an entity after a change, given what was seen before. A new entity is announced
before it is seen. -/
def EntityChange.takeIn (seen : Option EntitySummary) : EntityChange → Option EntitySummary
  | .spawned _ _ => seen
  | .updated summary => some summary
  | .despawned => none

/-- What is seen of all entities after a delta. -/
def EntityDelta.takeIn (seen : Table EntityId EntitySummary) (delta : EntityDelta) :
    Table EntityId EntitySummary :=
  match delta.change with
  | .spawned _ _ => seen
  | .updated summary => seen.insert delta.entity summary
  | .despawned => seen.erase delta.entity

/-- The changes of one entity. -/
def changesAbout (id : EntityId) (deltas : List EntityDelta) : List EntityChange :=
  (deltas.filter fun delta => delta.entity = id).map EntityDelta.change

theorem changesAbout_append (id : EntityId) (first second : List EntityDelta) :
    changesAbout id (first ++ second) = changesAbout id first ++ changesAbout id second := by
  rw [changesAbout, List.filter_append, List.map_append]
  rfl

theorem changesAbout_own (id : EntityId) (changes : List EntityChange) :
    changesAbout id (changes.map fun change => ⟨id, change⟩) = changes := by
  have all : (changes.map (EntityDelta.mk id)).filter (fun delta => delta.entity = id) =
      changes.map (EntityDelta.mk id) := by
    rw [List.filter_map]
    exact congrArg _ (List.filter_eq_self.mpr fun _ _ => decide_eq_true rfl)
  rw [changesAbout, all, List.map_map]
  exact List.map_id changes

theorem changesAbout_other {id other : EntityId} (apart : other ≠ id)
    (changes : List EntityChange) :
    changesAbout id (changes.map fun change => ⟨other, change⟩) = [] := by
  rw [changesAbout, List.filter_map, List.filter_eq_nil_iff.mpr fun _ _ => by simpa using apart]
  rfl

theorem get?_takeIn_delta (seen : Table EntityId EntitySummary) (delta : EntityDelta)
    (id : EntityId) :
    (delta.takeIn seen).get? id =
      if delta.entity = id then delta.change.takeIn (seen.get? id) else seen.get? id := by
  obtain ⟨entity, change⟩ := delta
  cases change with
  | spawned kind name => exact (ite_self _).symm
  | updated summary => exact (Table.get?_insert ..).trans (if_congr eq_comm rfl rfl)
  | despawned => exact (Table.get?_erase ..).trans (if_congr eq_comm rfl rfl)

/-- What is seen of an entity after some deltas follows from the changes that are about it. -/
theorem get?_takeIn (seen : Table EntityId EntitySummary) (deltas : List EntityDelta)
    (id : EntityId) :
    (deltas.foldl EntityDelta.takeIn seen).get? id =
      (changesAbout id deltas).foldl EntityChange.takeIn (seen.get? id) := by
  induction deltas generalizing seen with
  | nil => rfl
  | cons delta rest inductionHypothesis =>
    rw [List.foldl_cons, inductionHypothesis, get?_takeIn_delta, changesAbout, changesAbout,
      List.filter_cons]
    by_cases here : delta.entity = id
    · rw [if_pos here, if_pos (decide_eq_true here)]
      rfl
    · rw [if_neg here, if_neg (by simpa using here)]

/-! ## What there is to see -/

namespace EntityTable

/-- What there is to see of each live entity. -/
def seen (table : EntityTable) : Table EntityId EntitySummary :=
  table.entities.mapValues fun _ entity => entity.summary

theorem get?_seen (table : EntityTable) (id : EntityId) :
    table.seen.get? id = (table.get? id).map Entity.summary :=
  Table.get?_mapValues ..

/-- Each entity is kept under its identity. -/
def Identified (table : EntityTable) : Prop :=
  ∀ id entity, table.get? id = some entity → entity.id = id

variable {before after : EntityTable}

theorem Identified.summaries (identified : before.Identified) : before.summaries = before.seen :=
  Table.ext_get? fun id => (get?_summaries identified id).trans (before.get?_seen id).symm

/-- How each live avatar looks. -/
theorem Identified.get?_snapshots_iff (identified : before.Identified) {id : EntityId}
    {snapshot : AvatarSnapshot} :
    before.snapshots.get? id = some snapshot ↔
      ∃ entity, before.get? id = some entity ∧ entity.kind = .avatar ∧
        entity.snapshot = snapshot := by
  let avatars := before.entities.filter fun _ entity => entity.kind = .avatar
  have same : (before.list.filter fun entity => entity.kind = .avatar).map
      (fun entity => (entity.id, entity.snapshot)) =
        (avatars.mapValues fun _ entity => entity.snapshot).entries := by
    rw [list, Table.values, List.filter_map, List.map_map]
    refine List.map_congr_left fun entry member => ?_
    have found := Table.mem_entries_iff.mp (List.mem_filter.mp member).1
    rw [Function.comp_apply, identified entry.1 entry.2 found]
  rw [snapshots, same, Table.ofList_entries, Table.get?_mapValues, Table.get?_filter,
    Option.map_eq_some_iff]
  simp only [Option.filter_eq_some_iff, decide_eq_true_eq, and_assoc]
  rfl

/-! ## Deltas -/

/-- The identities that deltas may be about. -/
theorem mem_keys_seen {id : EntityId} :
    id ∈ (Table.ofList ((before.seen.keys ++ after.seen.keys).map fun id => (id, ())) :
      KeySet EntityId).keys ↔ before.contains id = true ∨ after.contains id = true := by
  have alive (table : EntityTable) : id ∈ table.seen.keys ↔ table.contains id = true := by
    rw [Table.mem_keys, Table.contains, get?_seen, Option.isSome_map]
    rfl
  rw [Table.mem_keys, Table.contains_ofList_iff, ← alive before, ← alive after, ← List.mem_append]
  simp

theorem changesAbout_flatMap {ids : List EntityId} (once : ids.Nodup)
    (changes : EntityId → List EntityChange) (id : EntityId) :
    changesAbout id (ids.flatMap fun id => (changes id).map fun change => ⟨id, change⟩) =
      if id ∈ ids then changes id else [] := by
  induction ids with
  | nil => rfl
  | cons head rest inductionHypothesis =>
    obtain ⟨absent, once⟩ := List.nodup_cons.mp once
    rw [List.flatMap_cons, changesAbout_append, inductionHypothesis once]
    by_cases here : head = id
    · subst here
      rw [changesAbout_own, if_neg absent, if_pos List.mem_cons_self, List.append_nil]
    · rw [changesAbout_other here, List.nil_append]
      exact if_congr (by simp [Ne.symm here]) rfl rfl

/-- What the deltas say of an entity. -/
theorem changesAbout_deltasSince (identifiedBefore : before.Identified)
    (identified : after.Identified) (id : EntityId) :
    changesAbout id (after.deltasSince before.summaries) =
      after.changesOf id ((before.get? id).map Entity.summary)
        ((after.get? id).map Entity.summary) := by
  rw [deltasSince, identifiedBefore.summaries, identified.summaries,
    changesAbout_flatMap (Table.keys_nodup _), get?_seen, get?_seen]
  refine ite_eq_left_iff.mpr fun absent => ?_
  rw [mem_keys_seen, not_or] at absent
  rw [show before.get? id = none from Table.get?_of_not_contains absent.1,
    show after.get? id = none from Table.get?_of_not_contains absent.2]
  rfl

/-- Whoever saw what there was to see before sees what there is to see now. -/
theorem foldl_deltasSince (identifiedBefore : before.Identified) (identified : after.Identified) :
    (after.deltasSince before.summaries).foldl EntityDelta.takeIn before.seen = after.seen := by
  refine Table.ext_get? fun id => ?_
  rw [get?_takeIn, changesAbout_deltasSince identifiedBefore identified, get?_seen, get?_seen]
  cases before.get? id with
  | none =>
    cases found : after.get? id with
    | none => rfl
    | some entity =>
      rw [Option.map_none, Option.map_some, changesOf, found]
      rfl
  | some old =>
    cases after.get? id with
    | none => rfl
    | some entity =>
      rw [Option.map_some, Option.map_some, changesOf]
      by_cases same : old.summary = entity.summary
      · rw [if_pos same]
        exact congrArg some same
      · rw [if_neg same]
        rfl

theorem deltasSince_ascending (table : EntityTable) (seen : Table EntityId EntitySummary) :
    (table.deltasSince seen).Pairwise fun first second =>
      first.entity.number ≤ second.entity.number := by
  rw [deltasSince]
  refine List.pairwise_flatMap.mpr ⟨fun id _ => ?_, ?_⟩
  · refine List.pairwise_map.mpr (List.pairwise_of_forall fun _ _ => UInt32.le_refl _)
  · refine (Table.keys_ascending _).imp fun {first second} before => ?_
    intro delta member later laterMember
    obtain ⟨_, _, rfl⟩ := List.mem_map.mp member
    obtain ⟨_, _, rfl⟩ := List.mem_map.mp laterMember
    exact UInt32.le_of_lt (Std.compare_eq_lt.mp before)

/-! ## Avatars -/

theorem mem_snapshotsSince (identifiedBefore : before.Identified) (identified : after.Identified)
    (snapshot : AvatarSnapshot) :
    snapshot ∈ after.snapshotsSince before.snapshots ↔
      ∃ id entity, after.get? id = some entity ∧ entity.kind = .avatar ∧
        entity.snapshot = snapshot ∧
          ∀ old, before.get? id = some old → old.kind = .avatar → old.snapshot ≠ snapshot := by
  have listed : snapshot ∈ after.snapshotsSince before.snapshots ↔
      ∃ id, after.snapshots.get? id = some snapshot ∧
        before.snapshots.get? id ≠ some snapshot := by
    rw [snapshotsSince, List.mem_map]
    constructor
    · rintro ⟨⟨id, held⟩, member, rfl⟩
      obtain ⟨present, changed⟩ := List.mem_filter.mp member
      exact ⟨id, Table.mem_entries_iff.mp present, of_decide_eq_true changed⟩
    · rintro ⟨id, held, changed⟩
      exact ⟨(id, snapshot), List.mem_filter.mpr
        ⟨Table.mem_entries_iff.mpr held, decide_eq_true changed⟩, rfl⟩
  rw [listed]
  simp only [ne_eq, identifiedBefore.get?_snapshots_iff, identified.get?_snapshots_iff,
    not_exists, not_and]
  constructor
  · rintro ⟨id, ⟨entity, found, avatar, same⟩, changed⟩
    exact ⟨id, entity, found, avatar, same, changed⟩
  · rintro ⟨id, entity, found, avatar, same, changed⟩
    exact ⟨id, ⟨entity, found, avatar, same⟩, changed⟩

theorem snapshotsSince_ascending (identified : after.Identified)
    (seen : Table EntityId AvatarSnapshot) :
    (after.snapshotsSince seen).Pairwise fun first second =>
      first.entity.number < second.entity.number := by
  have own (entry : EntityId × AvatarSnapshot) (member : entry ∈ after.snapshots.entries) :
      entry.2.entity = entry.1 := by
    obtain ⟨entity, found, _, same⟩ :=
      identified.get?_snapshots_iff.mp (Table.mem_entries_iff.mp member)
    rw [← same]
    exact identified entry.1 entity found
  rw [snapshotsSince, List.pairwise_map]
  refine (after.snapshots.ordered.filter _).imp_of_mem fun {first second} here there before => ?_
  rw [own first (List.mem_of_mem_filter here), own second (List.mem_of_mem_filter there)]
  exact Std.compare_eq_lt.mp before

end EntityTable

/-! ## Reports -/

/-- What the report of a tick says of what changed from one table of entities to another. -/
structure TickReport.Describes (report : TickReport) (before after : EntityTable) : Prop where
  /-- Taking in the deltas in order leads from what was seen to what is seen. -/
  complete : report.deltas.foldl EntityDelta.takeIn before.seen = after.seen
  ascending : report.deltas.Pairwise fun first second =>
    first.entity.number ≤ second.entity.number
  /-- An entity that looks the same has no delta, one that looks different has one, one that has
  gone has one, and a new one has two. -/
  minimal : ∀ id, changesAbout id report.deltas =
    match before.get? id, after.get? id with
    | none, none => []
    | some _, none => [.despawned]
    | none, some entity => [.spawned entity.kind entity.name, .updated entity.summary]
    | some old, some entity =>
      if old.summary = entity.summary then [] else [.updated entity.summary]
  avatarsAscending : report.avatars.Pairwise fun first second =>
    first.entity.number < second.entity.number
  /-- An avatar is listed, as it looks now, when it is new or looked different. -/
  avatars : ∀ snapshot, snapshot ∈ report.avatars ↔
    ∃ id entity, after.get? id = some entity ∧ entity.kind = .avatar ∧
      entity.snapshot = snapshot ∧
        ∀ old, before.get? id = some old → old.kind = .avatar → old.snapshot ≠ snapshot

namespace Machine

theorem runTick_describes {machine : Machine} {commands : List SequencedCommand} {seed : UInt64}
    (identifiedBefore : machine.state.entities.Identified)
    (identified : (machine.runTick commands seed).machine.state.entities.Identified) :
    (machine.runTick commands seed).report.Describes machine.state.entities
      (machine.runTick commands seed).machine.state.entities := by
  have deltas : (machine.runTick commands seed).report.deltas =
      (machine.runTick commands seed).machine.state.entities.deltasSince
        machine.state.entities.summaries := rfl
  have avatars : (machine.runTick commands seed).report.avatars =
      (machine.runTick commands seed).machine.state.entities.snapshotsSince
        machine.state.entities.snapshots := rfl
  generalize (machine.runTick commands seed).machine.state.entities = after at *
  constructor
  case complete =>
    rw [deltas]
    exact EntityTable.foldl_deltasSince identifiedBefore identified
  case ascending =>
    rw [deltas]
    exact EntityTable.deltasSince_ascending _ _
  case minimal =>
    intro id
    rw [deltas, EntityTable.changesAbout_deltasSince identifiedBefore identified]
    cases machine.state.entities.get? id with
    | none =>
      cases found : after.get? id with
      | none => rfl
      | some entity => rw [Option.map_none, Option.map_some, EntityTable.changesOf, found]
    | some old => cases after.get? id <;> rfl
  case avatarsAscending =>
    rw [avatars]
    exact EntityTable.snapshotsSince_ascending identified _
  case avatars =>
    intro snapshot
    rw [avatars]
    exact EntityTable.mem_snapshotsSince identifiedBefore identified snapshot

/-- Whatever is done with a machine, each entity is kept under its identity. -/
theorem history_identified {library : Library} {settings : Settings}
    (operations : List Operation) :
    (history library settings operations).machine.state.entities.Identified := by
  obtain ⟨_, deeds, edits, _⟩ := @history_changed library settings operations
  exact edits.identified

/-- **Every tick reports exactly what changed in it**, whatever was done with the machine before. -/
theorem history_describes {library : Library} {settings : Settings} (operations : List Operation)
    (commands : List SequencedCommand) (seed : UInt64) :
    let machine := (history library settings operations).machine
    let outcome := machine.runTick commands seed
    outcome.report.Describes machine.state.entities outcome.machine.state.entities := by
  have after := @history_identified library settings (operations ++ [.tick commands seed])
  rw [history_concat] at after
  exact runTick_describes (history_identified operations) after

end Machine
end Lockstep
