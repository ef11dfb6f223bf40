import Lockstep.Proofs.Entity.Field
import Lockstep.Proofs.State.Numbered

/-!
# Links between entities

An entity refers to others in three ways: it carries one, it is carried by one, and it feels
something about some. The first two are two sides of one link, and all lead to entities that are
alive (`EntityTable.Linked`). Every edit keeps this, as long as no identity is given out twice, so
it holds wherever edits lead from the empty state (`State.Edits.linked`).

Most edits change no link. An entity that picks another one up had both hands free, and so had the
other one, so that one pair comes to those that are linked; one that puts something down takes its
pair away; and one that goes takes away the pairs that it was in and what others felt about it
(`EntityTable.Linked.cutLinks`).
-/

set_option autoImplicit false

namespace Lockstep

namespace EntityTable

/-! ## What entities refer to -/

/-- What an entity carries. -/
def burdenOf (table : EntityTable) (id : EntityId) : Option EntityId :=
  table.field Entity.carrying none id

/-- Who carries an entity. -/
def carrierOf (table : EntityTable) (id : EntityId) : Option EntityId :=
  table.field Entity.carriedBy none id

/-- What an entity feels about others. -/
def feelingsOf (table : EntityTable) (id : EntityId) : Table EntityId Int16 :=
  table.field Entity.relationships Table.empty id

/-- Only a live entity has a field with something in it. -/
theorem field_eq_some_iff {α : Type} {table : EntityTable} {id : EntityId}
    {read : Entity → Option α} {value : α} :
    table.field read none id = some value ↔
      ∃ entity, table.get? id = some entity ∧ read entity = some value := by
  rw [field]
  cases found : table.get? id with
  | none =>
    refine iff_of_false (Option.some_ne_none value).symm ?_
    rintro ⟨entity, present, _⟩
    cases present
  | some entity =>
    constructor
    · intro held
      exact ⟨entity, rfl, held⟩
    · rintro ⟨other, same, held⟩
      obtain rfl := Option.some.inj same
      exact held

theorem contains_of_burdenOf {table : EntityTable} {id burden : EntityId}
    (carries : table.burdenOf id = some burden) : table.contains id = true := by
  obtain ⟨entity, found, _⟩ := field_eq_some_iff.mp carries
  exact Table.contains_of_get? found

theorem contains_of_carrierOf {table : EntityTable} {id carrier : EntityId}
    (carried : table.carrierOf id = some carrier) : table.contains id = true := by
  obtain ⟨entity, found, _⟩ := field_eq_some_iff.mp carried
  exact Table.contains_of_get? found

section

variable {table : EntityTable} {id : EntityId} {change : Entity → Entity}

theorem burdenOf_modify (kept : ∀ entity, (change entity).carrying = entity.carrying)
    (probe : EntityId) : (table.modify id change).burdenOf probe = table.burdenOf probe :=
  field_modify_same table id probe none kept

theorem carrierOf_modify (kept : ∀ entity, (change entity).carriedBy = entity.carriedBy)
    (probe : EntityId) : (table.modify id change).carrierOf probe = table.carrierOf probe :=
  field_modify_same table id probe none kept

theorem feelingsOf_modify (kept : ∀ entity, (change entity).relationships = entity.relationships)
    (probe : EntityId) : (table.modify id change).feelingsOf probe = table.feelingsOf probe :=
  field_modify_same table id probe Table.empty kept

theorem burdenOf_set (alive : table.contains id = true) {burden : Option EntityId}
    (set : ∀ entity, (change entity).carrying = burden) (probe : EntityId) :
    (table.modify id change).burdenOf probe = if probe = id then burden else table.burdenOf probe :=
  field_modify_set table probe set alive

theorem carrierOf_set (alive : table.contains id = true) {carrier : Option EntityId}
    (set : ∀ entity, (change entity).carriedBy = carrier) (probe : EntityId) :
    (table.modify id change).carrierOf probe =
      if probe = id then carrier else table.carrierOf probe :=
  field_modify_set table probe set alive

end

/-- What is carried when one entity has picked another one up. -/
theorem burdenOf_grab {table : EntityTable} {carrier : EntityId}
    (alive : table.contains carrier = true) (object probe : EntityId) :
    ((table.modify carrier fun entity =>
      { entity with carrying := some object }).modify object fun entity =>
        { entity with carriedBy := some carrier }).burdenOf probe =
      if probe = carrier then some object else table.burdenOf probe := by
  rw [burdenOf_modify, burdenOf_set alive]
  · exact fun _ => rfl
  · exact fun _ => rfl

/-- An entity that has gone is out of the links of all others. -/
theorem get?_cutLinks (table : EntityTable) (gone : Entity) (id probe : EntityId) :
    (State.cutLinks table gone id).get? probe = (table.get? probe).map fun entity =>
      { entity with
        carrying := if gone.carriedBy = some probe then none else entity.carrying
        carriedBy := if gone.carrying = some probe then none else entity.carriedBy
        relationships := entity.relationships.erase id } := by
  rw [State.cutLinks, get?]
  dsimp only
  rw [Table.get?_mapValues]
  have released (held : EntityId) (change : Entity → Entity) (entities : EntityTable) :
      (entities.modify held change).entities.get? probe =
        if some held = some probe then (entities.get? probe).map change
        else entities.get? probe := by
    refine (Table.get?_modify entities.entities held probe change).trans ?_
    by_cases same : probe = held
    · rw [if_pos same, if_pos (congrArg some same.symm)]
      rfl
    · rw [if_neg same, if_neg fun equal => same (Option.some.inj equal).symm]
      rfl
  cases gone.carriedBy with
  | none =>
    cases gone.carrying with
    | none => simp [get?]
    | some held =>
      rw [released]
      cases table.get? probe <;> split <;> simp [*]
  | some carrier =>
    cases gone.carrying with
    | none =>
      rw [released]
      cases table.get? probe <;> split <;> simp [*]
    | some held =>
      rw [released, get?, released]
      cases table.get? probe <;> split <;> split <;> simp [*]

theorem burdenOf_cutLinks (table : EntityTable) (gone : Entity) (id probe : EntityId) :
    (State.cutLinks table gone id).burdenOf probe =
      if gone.carriedBy = some probe then none else table.burdenOf probe := by
  rw [burdenOf, burdenOf, field, field, get?_cutLinks]
  cases table.get? probe <;> simp

theorem carrierOf_cutLinks (table : EntityTable) (gone : Entity) (id probe : EntityId) :
    (State.cutLinks table gone id).carrierOf probe =
      if gone.carrying = some probe then none else table.carrierOf probe := by
  rw [carrierOf, carrierOf, field, field, get?_cutLinks]
  cases table.get? probe <;> simp

theorem feelingsOf_cutLinks (table : EntityTable) (gone : Entity) (id probe : EntityId) :
    (State.cutLinks table gone id).feelingsOf probe = (table.feelingsOf probe).erase id := by
  rw [feelingsOf, feelingsOf, field, field, get?_cutLinks]
  cases table.get? probe <;> rfl

/-! ## Links that fit together -/

/-- What carries and what is carried name each other, nothing carries itself, and feelings are about
live entities and within their bounds. -/
structure Linked (table : EntityTable) : Prop where
  paired : ∀ carrier object,
    table.burdenOf carrier = some object ↔ table.carrierOf object = some carrier
  apart : ∀ id, table.burdenOf id ≠ some id
  felt : ∀ id other value, (table.feelingsOf id).get? other = some value →
    table.contains other = true ∧ relationshipMin ≤ value ∧ value ≤ relationshipMax

theorem linked_empty : EntityTable.empty.Linked where
  paired _ _ := ⟨fun carries => absurd carries (Option.some_ne_none _).symm,
    fun carried => absurd carried (Option.some_ne_none _).symm⟩
  apart id := (Option.some_ne_none id).symm
  felt _ _ value felt := absurd felt (Option.some_ne_none value).symm

namespace Linked

variable {table next : EntityTable}

/-- Nobody carries anything else than before. -/
theorem feel (linked : table.Linked) (burdens : ∀ id, next.burdenOf id = table.burdenOf id)
    (carriers : ∀ id, next.carrierOf id = table.carrierOf id)
    (felt : ∀ id other value, (next.feelingsOf id).get? other = some value →
      next.contains other = true ∧ relationshipMin ≤ value ∧ value ≤ relationshipMax) :
    next.Linked where
  paired carrier object := by
    rw [burdens, carriers]
    exact linked.paired carrier object
  apart id := by
    rw [burdens]
    exact linked.apart id
  felt := felt

/-- The same is felt, about entities that are still alive. -/
theorem still_felt (linked : table.Linked)
    (feelings : ∀ id, next.feelingsOf id = table.feelingsOf id)
    (alive : ∀ id, table.contains id = true → next.contains id = true) (id other : EntityId)
    (value : Int16) (felt : (next.feelingsOf id).get? other = some value) :
    next.contains other = true ∧ relationshipMin ≤ value ∧ value ≤ relationshipMax := by
  rw [feelings] at felt
  obtain ⟨present, bounds⟩ := linked.felt id other value felt
  exact ⟨alive other present, bounds⟩

/-- No link changes. -/
theorem congr (linked : table.Linked) (burdens : ∀ id, next.burdenOf id = table.burdenOf id)
    (carriers : ∀ id, next.carrierOf id = table.carrierOf id)
    (feelings : ∀ id, next.feelingsOf id = table.feelingsOf id)
    (alive : ∀ id, table.contains id = true → next.contains id = true) : next.Linked :=
  linked.feel burdens carriers (linked.still_felt feelings alive)

/-- One pair more: of two that were free, one carries the other. -/
theorem pair (linked : table.Linked) {carrier object : EntityId} (apart : object ≠ carrier)
    (free : table.burdenOf carrier = none) (loose : table.carrierOf object = none)
    (burdens : ∀ id,
      next.burdenOf id = if id = carrier then some object else table.burdenOf id)
    (carriers : ∀ id,
      next.carrierOf id = if id = object then some carrier else table.carrierOf id)
    (feelings : ∀ id, next.feelingsOf id = table.feelingsOf id)
    (alive : ∀ id, table.contains id = true → next.contains id = true) : next.Linked := by
  constructor
  case paired =>
    intro holder held
    rw [burdens, carriers]
    by_cases takes : holder = carrier
    · by_cases taken : held = object
      · rw [if_pos takes, if_pos taken, takes, taken]
        exact iff_of_true rfl rfl
      · have other : table.carrierOf held ≠ some carrier := by
          rw [Ne, ← linked.paired carrier held, free]
          exact (Option.some_ne_none held).symm
        rw [if_pos takes, if_neg taken, takes, Option.some_inj]
        exact ⟨fun same => absurd same.symm taken, fun same => absurd same other⟩
    · by_cases taken : held = object
      · have other : table.burdenOf holder ≠ some object := by
          rw [Ne, linked.paired holder object, loose]
          exact (Option.some_ne_none holder).symm
        rw [if_neg takes, if_pos taken, taken, Option.some_inj]
        exact ⟨fun same => absurd same other, fun same => absurd same.symm takes⟩
      · rw [if_neg takes, if_neg taken]
        exact linked.paired holder held
  case apart =>
    intro id
    rw [burdens]
    by_cases takes : id = carrier
    · rw [if_pos takes, takes]
      exact fun same => apart (Option.some.inj same)
    · rw [if_neg takes]
      exact linked.apart id
  case felt => exact linked.still_felt feelings alive

/-- Only some of the pairs are left, and only some of the feelings. -/
theorem shrink (linked : table.Linked) (left : EntityId → EntityId → Prop)
    (burdens : ∀ carrier object, next.burdenOf carrier = some object ↔
      left carrier object ∧ table.burdenOf carrier = some object)
    (carriers : ∀ carrier object, next.carrierOf object = some carrier ↔
      left carrier object ∧ table.carrierOf object = some carrier)
    (feelings : ∀ id other value, (next.feelingsOf id).get? other = some value →
      (table.feelingsOf id).get? other = some value ∧
        (table.contains other = true → next.contains other = true)) : next.Linked := by
  constructor
  case paired =>
    intro carrier object
    rw [burdens, carriers, linked.paired]
  case apart =>
    intro id same
    exact linked.apart id ((burdens id id).mp same).2
  case felt =>
    intro id other value felt
    obtain ⟨before, alive⟩ := feelings id other value felt
    obtain ⟨present, bounds⟩ := linked.felt id other value before
    exact ⟨alive present, bounds⟩

/-! ## What operations on tables keep -/

/-- One entity has changed, but none of its links. -/
theorem modify (linked : table.Linked) (id : EntityId) {change : Entity → Entity}
    (burden : ∀ entity, (change entity).carrying = entity.carrying)
    (carrier : ∀ entity, (change entity).carriedBy = entity.carriedBy)
    (feelings : ∀ entity, (change entity).relationships = entity.relationships) :
    (table.modify id change).Linked :=
  linked.congr (burdenOf_modify burden) (carrierOf_modify carrier) (feelingsOf_modify feelings)
    (fun probe present => contains_modify table id probe change ▸ present)

/-- A new entity has no links, and nobody has links to it. -/
theorem allocate (linked : table.Linked) (fresh : ¬ table.contains ⟨table.nextId + 1⟩ = true)
    (kind : EntityKind) (name : String) (template : EntityTemplate) :
    (table.allocate kind name template).2.Linked :=
  linked.congr (fun probe => field_allocate fresh kind name template probe rfl)
    (fun probe => field_allocate fresh kind name template probe rfl)
    (fun probe => field_allocate fresh kind name template probe rfl)
    (fun _ present => contains_allocate_iff.mpr (.inr present))

/-- An entity feels something about a live one. -/
theorem relate (linked : table.Linked) (id : EntityId) {other : EntityId} {value : Int16}
    (alive : table.contains other = true) (low : relationshipMin ≤ value)
    (high : value ≤ relationshipMax) :
    (table.modify id fun entity =>
      { entity with relationships := entity.relationships.insert other value }).Linked := by
  refine linked.feel (fun probe => ?_) (fun probe => ?_) fun probe subject feeling felt => ?_
  · rw [burdenOf_modify]
    exact fun _ => rfl
  · rw [carrierOf_modify]
    exact fun _ => rfl
  · rw [contains_modify]
    rw [feelingsOf, field_modify] at felt
    by_cases own : probe = id
    · rw [if_pos own] at felt
      cases found : table.get? id with
      | none =>
        rw [found] at felt
        exact absurd felt (Option.some_ne_none feeling).symm
      | some entity =>
        rw [found] at felt
        have inserted : (entity.relationships.insert other value).get? subject = some feeling := felt
        obtain ⟨rfl, rfl⟩ | ⟨_, kept⟩ := Table.get?_insert_eq_some_iff.mp inserted
        · exact ⟨alive, low, high⟩
        · have feelings : table.feelingsOf id = entity.relationships := field_of_get? found _ _
          exact linked.felt id subject feeling (feelings ▸ kept)
    · rw [if_neg own] at felt
      exact linked.felt probe subject feeling felt

/-- An entity with free hands picks up another one that nobody carries. -/
theorem grab (linked : table.Linked) {carrier object : EntityId} (apart : object ≠ carrier)
    (present : table.contains carrier = true) (free : table.burdenOf carrier = none)
    (there : table.contains object = true) (loose : table.carrierOf object = none) :
    ((table.modify carrier fun entity =>
      { entity with carrying := some object }).modify object fun entity =>
        { entity with carriedBy := some carrier }).Linked := by
  refine linked.pair apart free loose (burdenOf_grab present object) (fun id => ?_) (fun id => ?_)
    fun id alive => ?_
  · rw [carrierOf_set, carrierOf_modify]
    · exact fun _ => rfl
    · rwa [contains_modify]
    · exact fun _ => rfl
  · rw [feelingsOf_modify, feelingsOf_modify]
    · exact fun _ => rfl
    · exact fun _ => rfl
  · rwa [contains_modify, contains_modify]

/-- An entity puts down what it carries. -/
theorem drop (linked : table.Linked) {carrier object : EntityId}
    (carries : table.burdenOf carrier = some object) (position : Position) :
    ((table.modify object fun entity =>
      { entity with carriedBy := none, position }).modify carrier fun entity =>
        { entity with carrying := none }).Linked := by
  have carried := (linked.paired carrier object).mp carries
  let next := (table.modify object fun entity =>
    { entity with carriedBy := none, position }).modify carrier fun entity =>
      { entity with carrying := none }
  have burdens (id : EntityId) :
      next.burdenOf id = if id = carrier then none else table.burdenOf id := by
    rw [burdenOf_set, burdenOf_modify]
    · exact fun _ => rfl
    · rw [contains_modify]
      exact contains_of_burdenOf carries
    · exact fun _ => rfl
  have carriers (id : EntityId) :
      next.carrierOf id = if id = object then none else table.carrierOf id := by
    rw [carrierOf_modify, carrierOf_set (contains_of_carrierOf carried)]
    · exact fun _ => rfl
    · exact fun _ => rfl
  refine linked.shrink (fun holder _ => holder ≠ carrier) (fun holder held => ?_)
    (fun holder held => ?_) fun id other value felt => ?_
  · rw [burdens]
    by_cases puts : holder = carrier
    · rw [if_pos puts]
      exact iff_of_false (Option.some_ne_none held).symm fun still => still.1 puts
    · rw [if_neg puts]
      exact (and_iff_right puts).symm
  · rw [carriers]
    by_cases put : held = object
    · rw [if_pos put]
      refine iff_of_false (Option.some_ne_none holder).symm fun still => still.1 ?_
      exact Option.some.inj (still.2.symm.trans (put ▸ carried))
    · rw [if_neg put]
      refine (and_iff_right_of_imp fun still puts => put ?_).symm
      have other := (linked.paired holder held).mpr still
      exact Option.some.inj (other.symm.trans (puts ▸ carries))
  · rw [feelingsOf_modify, feelingsOf_modify] at felt
    · refine ⟨felt, fun present => ?_⟩
      rwa [contains_modify, contains_modify]
    · exact fun _ => rfl
    · exact fun _ => rfl

/-- What is left of a link of `probe` when `id` has gone. -/
theorem left_iff {link : Option EntityId} {id probe other : EntityId} :
    (if link = some id then none else if probe = id then none else link) = some other ↔
      (probe ≠ id ∧ other ≠ id) ∧ link = some other := by
  by_cases lost : link = some id
  · rw [if_pos lost]
    refine iff_of_false (Option.some_ne_none other).symm fun kept => kept.1.2 ?_
    exact Option.some.inj (kept.2.symm.trans lost)
  · rw [if_neg lost]
    by_cases here : probe = id
    · rw [if_pos here]
      exact iff_of_false (Option.some_ne_none other).symm fun kept => kept.1.1 here
    · rw [if_neg here]
      exact (and_iff_right_of_imp fun same => ⟨here, fun gone => lost (gone ▸ same)⟩).symm

/-- An entity goes, and its links are cut. -/
theorem cutLinks (linked : table.Linked) {id : EntityId} {gone : Entity}
    (burden : table.burdenOf id = gone.carrying) (carrier : table.carrierOf id = gone.carriedBy) :
    (State.cutLinks (table.erase id) gone id).Linked := by
  refine linked.shrink (fun holder held => holder ≠ id ∧ held ≠ id) (fun holder held => ?_)
    (fun holder held => ?_) fun probe other value felt => ?_
  · rw [burdenOf_cutLinks, burdenOf, field_erase, ← burdenOf, ← carrier, ← left_iff]
    simp only [linked.paired]
  · rw [carrierOf_cutLinks, carrierOf, field_erase, ← carrierOf, ← burden, and_comm (a := holder ≠ id),
      ← left_iff]
    simp only [linked.paired]
  · rw [feelingsOf_cutLinks, feelingsOf, field_erase] at felt
    obtain ⟨kept, held⟩ := Table.get?_erase_eq_some_iff.mp felt
    by_cases here : probe = id
    · rw [if_pos here] at held
      exact absurd held (Option.some_ne_none value).symm
    · rw [if_neg here] at held
      refine ⟨held, fun present => ?_⟩
      rw [State.contains_cutLinks]
      exact contains_erase_iff.mpr ⟨kept, present⟩

end Linked
end EntityTable

/-! ## Edits -/

namespace State

/-- What an entity that goes was linked to. -/
theorem linked_despawn {state next : State} {id : EntityId} {trace : List TraceEntry}
    (despawned : state.despawn id = some (trace, next)) (linked : state.entities.Linked) :
    next.entities.Linked := by
  obtain ⟨gone, found, _, rfl⟩ := despawn_eq despawned
  have silenced : (state.stopSounds id).entities.Linked :=
    linked.modify id (fun _ => rfl) (fun _ => rfl) (fun _ => rfl)
  refine silenced.cutLinks ?_ ?_
  · have kept : ∀ entity : Entity, { entity with sounds := [] }.carrying = entity.carrying :=
      fun _ => rfl
    exact (EntityTable.burdenOf_modify kept id).trans (EntityTable.field_of_get? found _ _)
  · have kept : ∀ entity : Entity, { entity with sounds := [] }.carriedBy = entity.carriedBy :=
      fun _ => rfl
    exact (EntityTable.carrierOf_modify kept id).trans (EntityTable.field_of_get? found _ _)

/-- **Every edit keeps the links together**, as long as the counter of entities has room. -/
theorem Edit.linked {before after : State} {deeds : List Deed} (edit : Edit before deeds after)
    {made : Nat} (numbered : before.entities.Numbered made) (linked : before.entities.Linked)
    (few : made + (entitiesMade deeds).length < 2 ^ 32) : after.entities.Linked := by
  cases edit with
  | allocate kind name template => exact linked.allocate (numbered.fresh few) kind name template
  | startThread started =>
    obtain ⟨_, _, rfl⟩ := startThread_eq started
    exact linked.modify _ (fun _ => rfl) (fun _ => rfl) (fun _ => rfl)
  | setThread thread known => exact linked
  | removeThread id => exact linked.modify _ (fun _ => rfl) (fun _ => rfl) (fun _ => rfl)
  | reshape id shape =>
    refine linked.modify id (fun entity => ?_) (fun entity => ?_) (fun entity => ?_) <;>
      obtain ⟨position, attributes, animation, same⟩ := shape entity <;> rw [same]
  | relate id alive low high => exact linked.relate id alive low high
  | bind unbound found avatar free =>
    exact linked.modify _ (fun _ => rfl) (fun _ => rfl) (fun _ => rfl)
  | grab apart holder free held loose =>
    refine linked.grab apart (Table.contains_of_get? holder) ?_ (Table.contains_of_get? held) ?_
    · exact (EntityTable.field_of_get? holder _ _).trans free
    · exact (EntityTable.field_of_get? held _ _).trans loose
  | drop position holder carries =>
    exact linked.drop ((EntityTable.field_of_get? holder _ _).trans carries) position
  | playSound sound volume looping alive =>
    exact linked.modify _ (fun _ => rfl) (fun _ => rfl) (fun _ => rfl)
  | stopSounds owner => exact linked.modify _ (fun _ => rfl) (fun _ => rfl) (fun _ => rfl)
  | despawn despawned => exact linked_despawn despawned linked
  | tick tick => exact linked

/-- Wherever edits lead from the empty state, the links fit together, as long as the counter of
entities has not run over. -/
theorem Edits.linked {state : State} {deeds : List Deed} (edits : Edits State.empty deeds state)
    (few : (entitiesMade deeds).length < 2 ^ 32) : state.entities.Linked := by
  induction edits with
  | none => exact EntityTable.linked_empty
  | more edits edit inductionHypothesis =>
    rw [entitiesMade_append, List.length_append] at few
    have earlierFew := Nat.lt_of_le_of_lt (Nat.le_add_right _ _) few
    exact edit.linked (edits.numbered earlierFew) (inductionHypothesis earlierFew) few

end State
end Lockstep
