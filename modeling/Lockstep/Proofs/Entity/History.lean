import Lockstep.Proofs.Entity.Links
import Lockstep.Proofs.Machine.Chronicle
import Lockstep.Proofs.Machine.Churn
import Lockstep.Proofs.State.Births

/-!
# Links in histories

Whatever is done with a machine that starts empty, the links between its entities agree, also after
every single instruction of a tick (`Machine.history_links`). So an entity carries at most one other
and is carried by at most one, and no entity refers to one that has gone.
-/

set_option autoImplicit false

namespace Lockstep

/-- What is written down of links. -/
structure State.LinksAgree (state : State) : Prop where
  /-- An entity carries another one when both are alive and the other one is carried by it. -/
  carries : ∀ carrier object,
    (∃ entity, state.entities.get? carrier = some entity ∧ entity.carrying = some object) ↔
      carrier ≠ object ∧ state.entities.contains carrier = true ∧
        ∃ entity, state.entities.get? object = some entity ∧ entity.carriedBy = some carrier
  /-- What carries an entity is alive and is not that entity itself. -/
  carried : ∀ carrier object,
    (∃ entity, state.entities.get? object = some entity ∧ entity.carriedBy = some carrier) →
      carrier ≠ object ∧ state.entities.contains carrier = true
  /-- No two entities carry the same one. -/
  carriedOnce : ∀ first second object,
    (∃ entity, state.entities.get? first = some entity ∧ entity.carrying = some object) →
      (∃ entity, state.entities.get? second = some entity ∧ entity.carrying = some object) →
        first = second
  /-- Feelings are about live entities, and within their bounds. -/
  felt : ∀ id entity, state.entities.get? id = some entity →
    ∀ other value, entity.relationships.get? other = some value →
      state.entities.contains other = true ∧ relationshipMin ≤ value ∧ value ≤ relationshipMax

namespace State

theorem linksAgree_of_linked {state : State} (linked : state.entities.Linked) :
    state.LinksAgree := by
  have burden (carrier object : EntityId) := @EntityTable.field_eq_some_iff _ state.entities carrier
    Entity.carrying object
  have holder (carrier object : EntityId) := @EntityTable.field_eq_some_iff _ state.entities object
    Entity.carriedBy carrier
  have carried (carrier object : EntityId)
      (held : state.entities.carrierOf object = some carrier) :
      carrier ≠ object ∧ state.entities.contains carrier = true := by
    have carries := (linked.paired carrier object).mpr held
    refine ⟨fun same => linked.apart carrier (same ▸ carries), ?_⟩
    exact EntityTable.contains_of_burdenOf carries
  constructor
  case carries =>
    intro carrier object
    rw [← burden, ← holder]
    refine (linked.paired carrier object).trans ⟨fun held => ?_, fun both => both.2.2⟩
    exact ⟨(carried carrier object held).1, (carried carrier object held).2, held⟩
  case carried =>
    intro carrier object
    rw [← holder]
    exact carried carrier object
  case carriedOnce =>
    intro first second object
    rw [← burden, ← burden]
    intro firstCarries secondCarries
    have firstHolds := (linked.paired first object).mp firstCarries
    have secondHolds := (linked.paired second object).mp secondCarries
    exact Option.some.inj (firstHolds.symm.trans secondHolds)
  case felt =>
    intro id entity found other value felt
    have feelings : state.entities.feelingsOf id = entity.relationships :=
      EntityTable.field_of_get? found _ _
    exact linked.felt id other value (feelings ▸ felt)

/-- What edits lead to from the empty state is written down in agreement. -/
theorem Edits.linksAgree {state : State} {deeds : List Deed}
    (edits : Edits State.empty deeds state) (few : (entitiesMade deeds).length < 2 ^ 32) :
    state.LinksAgree :=
  linksAgree_of_linked (edits.linked few)

end State

namespace Machine

variable {library : Library} {settings : Settings}

/-- **The links between entities agree** after every history and at every moment of each of its
ticks, unless `2 ^ 32` entities have come. From then on a new entity can take the place of a live
one, to which others still refer. -/
theorem history_links (operations : List Operation)
    (few : (births (passed library settings operations)).length < 2 ^ 32) :
    (history library settings operations).machine.state.LinksAgree ∧
      ∀ earlier commands seed later, operations = earlier ++ .tick commands seed :: later →
        ∀ moment ∈ (history library settings earlier).machine.moments commands seed,
          moment.state.LinksAgree := by
  have route := @history_route library settings operations
  constructor
  · obtain ⟨deeds, edits, made⟩ := route.edits few
    exact edits.linksAgree made
  · rintro earlier commands seed later rfl moment during
    obtain ⟨deeds, edits, made⟩ := route.edits_of_mem few (mem_passed_of_moment during)
    exact edits.linksAgree made

/-- A library with one behavior, which turns to the second entity, feels as much as it can about it,
and picks it up. -/
def fondLibrary : Library where
  behaviors := Table.empty.insert 300 ⟨300, "fetch", 0, 0,
    [.ofOperand (.primitive (.setStackObject ⟨.literal, 2⟩)) 1 targetFalse,
      .ofOperand (.primitive (.relationship .set ⟨.literal, 500⟩)) 2 targetFalse,
      .ofOperand (.primitive (.carry .grab)) targetTrue targetFalse]⟩

/-- A dog fetches a ball. It has the ball after the third instruction of its turn, and until the
ball is taken away. -/
theorem history_links_dog :
    let spawns : List Operation :=
      [.spawn .object "dog" ⟨some 300, [], ⟨0, 0⟩⟩, .spawn .object "ball" .empty]
    let operations := spawns ++ [.tick [] 7, .despawn ⟨2⟩]
    let moments := (history fondLibrary ⟨10, default⟩ spawns).machine.moments [] 7
    let last := (history fondLibrary ⟨10, default⟩ operations).machine.state
    (births (passed fondLibrary ⟨10, default⟩ operations)).length < 2 ^ 32 ∧
      moments.map (fun moment => moment.state.entities.burdenOf ⟨1⟩) =
        [none, none, none, some ⟨2⟩, some ⟨2⟩] ∧
      (∀ moment ∈ moments, moment.state.LinksAgree) ∧
      last.entities.burdenOf ⟨1⟩ = none ∧ last.LinksAgree := by
  intro spawns operations moments last
  have few : (births (passed fondLibrary ⟨10, default⟩ operations)).length < 2 ^ 32 := by
    decide +kernel
  obtain ⟨agree, ticks⟩ := @history_links fondLibrary ⟨10, default⟩ operations few
  exact ⟨few, by decide +kernel, ticks spawns [] 7 [.despawn ⟨2⟩] rfl, by decide +kernel, agree⟩

/-- When the counter of identities has run over, a rock takes the place of the dog. The ball is still
carried by it, and it carries nothing. -/
theorem history_links_lap :
    let fetches : List Operation :=
      [.spawn .object "dog" ⟨some 300, [], ⟨0, 0⟩⟩, .spawn .object "ball" .empty, .tick [] 7]
    let operations := fetches ++ lap 2 ++ [.spawn .object "rock" .empty]
    let state := (history fondLibrary ⟨10, default⟩ operations).machine.state
    state.entities.carrierOf ⟨2⟩ = some ⟨1⟩ ∧ state.entities.burdenOf ⟨1⟩ = none ∧
      ¬ state.LinksAgree := by
  intro fetches operations state
  have same : state = _ := congrArg Machine.state (@history_lap_spawn fondLibrary ⟨10, default⟩
    fetches 2 (by decide +kernel) (by decide +kernel) "rock").1
  have carried : state.entities.carrierOf ⟨2⟩ = some ⟨1⟩ := by
    rw [same]
    decide +kernel
  have nothing : state.entities.burdenOf ⟨1⟩ = none := by
    rw [same]
    decide +kernel
  refine ⟨carried, nothing, fun agree => ?_⟩
  have held := EntityTable.field_eq_some_iff.mp carried
  obtain ⟨apart, alive⟩ := agree.carried ⟨1⟩ ⟨2⟩ held
  have carries := (agree.carries ⟨1⟩ ⟨2⟩).mpr ⟨apart, alive, held⟩
  have burden : state.entities.burdenOf ⟨1⟩ = some ⟨2⟩ := EntityTable.field_eq_some_iff.mpr carries
  exact absurd (nothing.symm.trans burden) (Option.some_ne_none _).symm

end Machine
end Lockstep
